import Ekaette.Lib.PyValue

set_option autoImplicit false

/-! # The document store

Documents are records addressed by their full path. Reads and writes of one document are atomic; a
transaction is a single step of the model that uses them. -/

namespace Ekaette

/-- Collection and document names from the root down. -/
abbrev DocPath := List String

abbrev Firestore := Dict DocPath Record

/-- `collection.document(id)`. -/
def DocPath.document (col : DocPath) (id : String) : DocPath := col ++ [id]

/-- `doc_ref.update(fields)`: `none` when the document does not exist (the call raises). -/
def Firestore.update? (db : Firestore) (ref : DocPath) (fields : Record) : Option Firestore :=
  (db.get? ref).map (fun doc => db.set ref (doc.merge fields))

/-- How one access to the store goes: it is served, it raises without effect, or it takes effect and
    its reply is lost (the caller sees an exception). -/
inductive Access where
  | served
  | refused
  | lost
  deriving DecidableEq

/-- The result `r` of an access from store `s`, with `failed` for what the caller makes of an
    exception. -/
def Access.perform {σ α : Type} (access : Access) (s : σ) (r : σ × α) (failed : α) : σ × α :=
  match access with
  | .served => r
  | .refused => (s, failed)
  | .lost => (r.1, failed)

theorem Access.perform_fst {σ α : Type} (access : Access) (s : σ) (r : σ × α) (failed : α) :
    (access.perform s r failed).1 = if access = .refused then s else r.1 := by
  cases access <;> rfl

end Ekaette
