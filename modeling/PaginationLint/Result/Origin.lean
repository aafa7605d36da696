import PaginationLint.Sdk.Package
import PaginationLint.Types.Search

/-!
Where a result type comes from.

A result is trusted to come from the SDK if its type, or any type met through its fields, is
declared in an SDK package. All fields are followed, last to first, since a wrapper may hold the
SDK's result in a named field.
-/

namespace PaginationLint.TypeTable

/-- Is this a type declared in an SDK package? -/
def isSdkType (t : TypeTable) (id : TypeId) : Bool :=
  match t.named? id with
  | some (_, some package) => isSdkPackage package
  | _ => false

/-- Does the type, or one met through its fields, come from the SDK? -/
def isTrusted (t : TypeTable) (id : TypeId) : Bool :=
  (t.search List.reverse (fun id => if t.isSdkType id then some () else none) id).isSome

end PaginationLint.TypeTable
