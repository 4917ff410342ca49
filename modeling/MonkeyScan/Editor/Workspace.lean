import MonkeyScan.Editor.Diagnostic

/-!
The open documents of an editor, by their addresses. Opening a document stores its text, a change
replaces it by other texts one after the other; both publish the diagnostics of the text that the
document then has, and replace those published before. The documents are kept by the editor's
library: of the store (`Store`) nothing is known but that the text stored for a document is the one
it has from then on, and that other documents keep theirs. A list of texts is one such store.
-/

namespace MonkeyScan.Editor

/-- A store of the texts of open documents. -/
class Store (σ : Type) where
  /-- The text of a document, if it is open. -/
  text? : σ → String → Option String
  /-- The store with a text for a document. -/
  store : σ → String → String → σ
  text?_store_self (w : σ) (uri text : String) : text? (store w uri text) uri = some text
  text?_store_of_ne {uri other : String} (ne : other ≠ uri) (w : σ) (text : String) :
    text? (store w uri text) other = text? w other

/-- What an editor reports. -/
inductive Event where
  /-- A document is opened with a text. -/
  | opened (uri text : String)
  /-- A document's whole text is replaced, by each of the texts in turn. -/
  | changed (uri : String) (texts : List String)
deriving DecidableEq

/-- The diagnostics of a document. -/
structure Notification where
  uri : String
  diagnostics : List Diagnostic
deriving DecidableEq

namespace Event

/-- The document that an event is about. -/
def uri : Event → String
  | opened uri _ => uri
  | changed uri _ => uri

end Event

namespace Store

variable {σ : Type} [Store σ]

attribute [simp] text?_store_self

/-- The store after an event, nothing published yet. -/
def apply (w : σ) : Event → σ
  | .opened uri text => store w uri text
  | .changed uri texts => texts.foldl (store · uri ·) w

/-- What is published for a document; nothing for one that is not open, or whose diagnostics have no
place in it. -/
def publish (w : σ) (uri : String) : List Notification :=
  match (text? w uri).bind Diagnostic.ofText? with
  | some diagnostics => [⟨uri, diagnostics⟩]
  | none => []

/-- One event: what is published, and the store after it. -/
def handle (w : σ) (e : Event) : List Notification × σ :=
  (publish (apply w e) e.uri, apply w e)

/-- What is published at each of several events. -/
def session (w : σ) : List Event → List (List Notification)
  | [] => []
  | e :: es => (handle w e).1 :: session (handle w e).2 es

end Store

/-- The texts of the open documents in a list, the latest first. -/
structure Workspace where
  documents : List (String × String)
deriving DecidableEq

namespace Workspace

/-- No documents. -/
def empty : Workspace := ⟨[]⟩

instance : Store Workspace where
  text? w uri := w.documents.lookup uri
  store w uri text := ⟨(uri, text) :: w.documents⟩
  text?_store_self _ _ _ := by simp
  text?_store_of_ne {uri other} ne w text := by
    have apart : (other == uri) = false := by simpa using ne
    simp [List.lookup_cons, apart]

end Workspace

end MonkeyScan.Editor
