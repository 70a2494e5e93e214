/-
Native symbols: which address a symbol that no library defines resolves to.

Names are only ever added. Registering a name again binds it anew; a null address is refused.
-/
import Graft.NameMap
import Graft.Error
import Graft.Action

namespace Graft

abbrev SymbolTable := NameMap Address

namespace SymbolTable

/-- bind a name to an address; says whether the table changed -/
def register (name : String) (address : Address) : Action Error SymbolTable Bool := do
  if address.isNull then Action.stop (.codegen (.nullSymbol name))
  else
    let table ← Action.read
    match table.find? name with
    | some bound =>
      if bound = address then
        Action.note .trace s!"Symbol '{name}' already registered at {address.text}"
        return false
      else
        Action.note .warn s!"Rebinding native symbol '{name}' from {bound.text} to {address.text}"
        Action.write (table.insert name address)
        return true
    | none =>
      Action.note .debug s!"Registered native symbol '{name}' at {address.text}"
      Action.write (table.insert name address)
      return true

end SymbolTable

end Graft
