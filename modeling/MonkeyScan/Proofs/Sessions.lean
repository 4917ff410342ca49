import MonkeyScan.Proofs.DiagnosticRanges

/-!
What an editor is told in the course of a session. A document has the text that was given to it
last, whatever was given to others (`text?_foldl_apply`), and what is published of it is a matter of
that text alone (`getElem?_session_of_currentText?`); of the store that keeps the texts only its two
laws are used. Main statement: `session_publishes`.
-/

namespace MonkeyScan.Editor

open Alphabet

namespace Event

/-- The texts that an event gives to a document, one after the other. -/
def textsFor (uri : String) : Event → List String
  | .opened about text => if about = uri then [text] else []
  | .changed about texts => if about = uri then texts else []

/-- The text that a document has after some events: the last one given to it. -/
def currentText? (es : List Event) (uri : String) : Option String :=
  (es.flatMap (textsFor uri)).getLast?

/-- Each document is opened before it is changed. -/
def OpenedFirst (es : List Event) : Prop :=
  ∀ (i : Nat) (uri : String) (texts : List String), es[i]? = some (.changed uri texts) →
    ∃ text, .opened uri text ∈ es.take i

theorem currentText?_cons (e : Event) (es : List Event) (uri : String) :
    currentText? (e :: es) uri = (currentText? es uri).or (e.textsFor uri).getLast? := by
  rw [currentText?, List.flatMap_cons, List.getLast?_append]
  rfl

/-- A document that an event is about has a text behind it. -/
theorem exists_currentText? {es : List Event} (ordered : OpenedFirst es) {i : Nat} {e : Event}
    (here : es[i]? = some e) : ∃ text, currentText? (es.take (i + 1)) e.uri = some text := by
  have opening : ∃ text, .opened e.uri text ∈ es.take (i + 1) := by
    cases e with
    | opened uri text =>
      exact ⟨text, List.mem_of_getElem? (List.getElem?_take_of_succ.trans here)⟩
    | changed uri texts =>
      obtain ⟨text, mem⟩ := ordered i uri texts here
      exact ⟨text, (List.take_sublist_take_left (Nat.le_succ i)).subset mem⟩
  obtain ⟨text, mem⟩ := opening
  have given : text ∈ (es.take (i + 1)).flatMap (textsFor e.uri) :=
    List.mem_flatMap.2 ⟨_, mem, by simp [textsFor]⟩
  exact ⟨_, List.getLast?_eq_some_getLast (List.ne_nil_of_mem given)⟩

end Event

namespace Store

variable {σ : Type} [Store σ]

theorem text?_foldl_store (w : σ) (about uri : String) (texts : List String) :
    text? (texts.foldl (store · about ·) w) uri =
      ((if about = uri then texts else []).getLast?).or (text? w uri) := by
  induction texts generalizing w with
  | nil => split <;> rfl
  | cons text texts ih =>
    rw [List.foldl_cons, ih]
    by_cases same : about = uri
    · subst same
      rw [if_pos rfl, if_pos rfl, text?_store_self, List.getLast?_cons]
      cases texts.getLast? <;> rfl
    · rw [if_neg same, if_neg same, text?_store_of_ne (Ne.symm same)]

theorem text?_apply (w : σ) (e : Event) (uri : String) :
    text? (apply w e) uri = (e.textsFor uri).getLast?.or (text? w uri) := by
  cases e with
  | opened about text => exact text?_foldl_store w about uri [text]
  | changed about texts => exact text?_foldl_store w about uri texts

/-- A document has the text that it was given last, if it was given any. -/
theorem text?_foldl_apply (w : σ) (es : List Event) (uri : String) :
    text? (es.foldl apply w) uri = (Event.currentText? es uri).or (text? w uri) := by
  induction es generalizing w with
  | nil => rfl
  | cons e es ih =>
    rw [List.foldl_cons, ih, text?_apply, Event.currentText?_cons, Option.or_assoc]

theorem length_session (w : σ) (es : List Event) : (session w es).length = es.length := by
  induction es generalizing w with
  | nil => rfl
  | cons e es ih => exact congrArg Nat.succ (ih _)

/-- What is published at an event is that of its document in the store behind it. -/
theorem getElem?_session {w : σ} {es : List Event} {i : Nat} {e : Event}
    (here : es[i]? = some e) :
    (session w es)[i]? = some (publish ((es.take (i + 1)).foldl apply w) e.uri) := by
  induction es generalizing w i with
  | nil => cases here
  | cons first es ih =>
    cases i with
    | zero =>
      obtain rfl := Option.some.inj here
      rfl
    | succ i => exact ih here

/-- The document of an event and the text that it has behind the event decide what is published. -/
theorem getElem?_session_of_currentText? {w : σ} {es : List Event} {i : Nat} {e : Event}
    {text : String} (here : es[i]? = some e)
    (given : Event.currentText? (es.take (i + 1)) e.uri = some text) :
    (session w es)[i]? =
      some [⟨e.uri, (illegalFrom 0 text.toList).map (Diagnostic.atOffset text.toList)⟩] := by
  rw [getElem?_session here]
  refine congrArg some (publish_of_text? ?_)
  rw [text?_foldl_apply, given, Option.some_or]

end Store

/-- In whatever store, and whatever is in it at first, each event of a session publishes one
notification, about its own document. The diagnostics are those of the text that the document then
has: the same as in any session in which a document is opened with that text at once, and the same
as in any other session that comes to that text for a document of that address. There are none just
when no character of the text is illegal. -/
theorem session_publishes {σ : Type} [Store σ] (w : σ) {es : List Event}
    (ordered : Event.OpenedFirst es) :
    (Store.session w es).length = es.length ∧
      ∀ (i : Nat) (e : Event), es[i]? = some e → ∃ text diagnostics,
        Event.currentText? (es.take (i + 1)) e.uri = some text ∧
        (Store.session w es)[i]? = some [⟨e.uri, diagnostics⟩] ∧
        (∀ (w' : σ) uri, Store.session w' [.opened uri text] = [[⟨uri, diagnostics⟩]]) ∧
        (diagnostics = [] ↔ ∀ c ∈ text.toList, isIllegal c = false) ∧
        ∀ (w' : σ) (es' : List Event) (i' : Nat) (e' : Event), es'[i']? = some e' →
          e'.uri = e.uri → Event.currentText? (es'.take (i' + 1)) e'.uri = some text →
          (Store.session w' es')[i']? = (Store.session w es)[i]? := by
  refine ⟨Store.length_session _ _, fun i e here => ?_⟩
  obtain ⟨text, given⟩ := Event.exists_currentText? ordered here
  have published : (Store.session w es)[i]? = _ :=
    Store.getElem?_session_of_currentText? here given
  refine ⟨text, _, given, published, fun w' uri => ?_, ?_, fun w' es' i' e' here' same given' => ?_⟩
  · exact congrArg (fun n => [n]) (Store.publish_of_text? (Store.text?_store_self _ _ _))
  · rw [List.map_eq_nil_iff, illegalFrom_eq_nil_iff]
  · rw [published, Store.getElem?_session_of_currentText? here' given', same]

/-- Two documents in turn: the second one is untouched when the first is cleared, and a change
without texts publishes the text that is there. -/
theorem session_two_documents :
    let es : List Event := [.opened "a" "@", .opened "b" "x$", .changed "a" ["$", "ok"],
      .changed "b" []]
    Event.OpenedFirst es ∧
      (Store.session Workspace.empty es)[2]? = some [⟨"a", []⟩] ∧
      (Store.session Workspace.empty es)[3]? =
        some [⟨"b", [⟨⟨0, 1⟩, ⟨0, 2⟩, "illegal character '$'", .error, "monkeylex"⟩]⟩] := by
  intro es
  have ordered : Event.OpenedFirst es := by
    intro i uri texts here
    match i with
    | 0 | 1 => cases here
    | 2 | 3 => cases here; exact ⟨_, by simp [es]; rfl⟩
  have cleared : Event.currentText? (es.take 3) "a" = some "ok" := by decide +kernel
  have kept : Event.currentText? (es.take 4) "b" = some "x$" := by decide +kernel
  have fresh : Store.session Workspace.empty [.opened "b" "x$"] =
      [[⟨"b", [⟨⟨0, 1⟩, ⟨0, 2⟩, "illegal character '$'", .error, "monkeylex"⟩]⟩]] := by
    decide +kernel
  obtain ⟨-, published⟩ := session_publishes Workspace.empty ordered
  refine ⟨ordered, ?_, ?_⟩
  · obtain ⟨text, diagnostics, given, there, -, none_iff, -⟩ := published 2 _ rfl
    obtain rfl := Option.some.inj (cleared.symm.trans given)
    have legal : "ok".toList.all (isIllegal · == false) = true := by decide +kernel
    rw [there, none_iff.2 fun c mem => eq_of_beq (List.all_eq_true.1 legal c mem)]
    rfl
  · obtain ⟨text, diagnostics, given, there, opened, -⟩ := published 3 _ rfl
    obtain rfl := Option.some.inj (kept.symm.trans given)
    have same := (opened Workspace.empty "b").symm.trans fresh
    exact there.trans (congrArg some (List.head_eq_of_cons_eq same))

end MonkeyScan.Editor
