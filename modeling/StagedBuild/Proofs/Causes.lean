import StagedBuild.Proofs.Summarizing

/-!
# The causes of a failure in its diagnostic

A failure of a file or of the library has an error for its cause, which another error may have
caused, and so on. Its diagnostic names them all, each on a line of its own, the outermost first; a
failure of a stage keeps the diagnostic it came with (`toDiagnostic_keeps_causes`).

* `ErrorLink.behind?`: the error that following the chain meets after so many steps.
  `text_behind?` says which one it is, and that there is none after the last.
* `ErrorLink.follow_eq`: what following the chain gathers.
* `Failure.CausedBy`: the failures that have a cause.
-/

namespace StagedBuild

namespace ErrorLink

/-- The texts of the errors of a chain, this one's first. -/
def texts : ErrorLink → List String
  | last text => [text]
  | caused text source => text :: source.texts

/-- The error that so many steps from one to its cause lead to. -/
def behind? (link : ErrorLink) : Nat → Option ErrorLink
  | 0 => some link
  | steps + 1 => (link.behind? steps).bind source?

theorem behind?_succ (text : String) (source : ErrorLink) (steps : Nat) :
    (caused text source).behind? (steps + 1) = source.behind? steps := by
  induction steps with
  | zero => rfl
  | succ steps ih => rw [behind?, ih, behind?]

theorem behind?_last (text : String) (steps : Nat) :
    (last text).behind? (steps + 1) = none := by
  induction steps with
  | zero => rfl
  | succ steps ih => rw [behind?, ih, Option.bind_none]

/-- The steps meet each error of the chain once and in order, and end after the last. -/
theorem text_behind? (link : ErrorLink) (steps : Nat) :
    (link.behind? steps).map text = link.texts[steps]? := by
  induction link generalizing steps with
  | last text =>
    cases steps with
    | zero => rfl
    | succ steps => rw [behind?_last, texts, List.getElem?_cons_succ]; rfl
  | caused text source ih =>
    cases steps with
    | zero => rfl
    | succ steps => rw [behind?_succ, ih, texts, List.getElem?_cons_succ]

theorem texts_ofTexts (text : String) (rest : List String) :
    (ofTexts text rest).texts = text :: rest := by
  induction rest generalizing text with
  | nil => rfl
  | cons next rest ih => rw [ofTexts, texts, ih]

/-- Following a chain adds the line of each of its errors, in order. -/
theorem follow_eq (lines : List String) (link : ErrorLink) :
    follow lines (some link) = lines ++ link.texts.map ("caused by: " ++ ·) := by
  induction link generalizing lines with
  | last text =>
    rw [follow, source?, follow]
    rfl
  | caused text source ih =>
    rw [follow, source?, ih, texts, List.map_cons, List.append_assoc]
    rfl

end ErrorLink

theorem IoCause.texts_link (cause : IoCause) : cause.link.texts = cause.texts :=
  ErrorLink.texts_ofTexts cause.text cause.causes

namespace Failure

/-- The failure is one of a file or of the library, has this cause and was thrown here. -/
inductive CausedBy : Failure → IoCause → ThrowSite → Prop
  | file (action : FileAction) (path : String) (cause : IoCause) (thrownBy : ThrowSite) :
      CausedBy (.file action path cause thrownBy) cause thrownBy
  | libraryRefresh (cause : IoCause) (thrownBy : ThrowSite) :
      CausedBy (.libraryRefresh cause thrownBy) cause thrownBy

/-- The lines that name all causes. -/
def causeLines (cause : IoCause) : List String :=
  cause.texts.map ("caused by: " ++ ·)

variable {failure : Failure} {cause : IoCause} {thrownBy : ThrowSite}

theorem CausedBy.source? (caused : failure.CausedBy cause thrownBy) :
    failure.source? = some cause.link := by
  cases caused with
  | file => rfl
  | libraryRefresh => rfl

theorem CausedBy.toDiagnostic (caused : failure.CausedBy cause thrownBy) :
    failure.toDiagnostic =
      ⟨.error, failure.message, thrownBy, "\n".intercalate (causeLines cause), none⟩ := by
  have lines : ErrorLink.follow [] failure.source? = causeLines cause := by
    rw [caused.source?, ErrorLink.follow_eq, IoCause.texts_link, List.nil_append, causeLines]
  rw [← lines]
  cases caused with
  | file => rfl
  | libraryRefresh => rfl

/-- Rendered, the causes are lines under those of the message and of the throw site. -/
theorem CausedBy.render (caused : failure.CausedBy cause thrownBy) :
    failure.toDiagnostic.render = "\n".intercalate
      (s!"error: {failure.message}" :: s!"Thrown by {thrownBy.display}" :: causeLines cause) := by
  have lines : causeLines cause =
    ("caused by: " ++ cause.text) :: cause.causes.map ("caused by: " ++ ·) := rfl
  have severity : "error" ++ ": " = "error: " := by decide
  rw [caused.toDiagnostic, lines, String.intercalate_cons_cons, String.intercalate_cons_cons,
    ← lines, Diagnostic.render]
  change "\n".intercalate ["error" ++ ": " ++ failure.message, _, _] = _
  rw [severity, String.intercalate_cons_cons, String.intercalate_cons_cons,
    String.intercalate_singleton]
  rfl

/-- Of a failure with a cause the diagnostic is an error without a place, with the failure's message
and throw site, and its details are a line for each error of the chain of causes, in order: the
chain is followed step by step, meets each of these errors once, and ends after the last. A
failure of a stage has the diagnostic that it came with, whatever its severity, and is shown like
it. In each summary every recorded failure is shown by rendering its diagnostic, so with all of its
causes. -/
theorem toDiagnostic_keeps_causes (failure : Failure) :
    (∀ cause thrownBy, failure.CausedBy cause thrownBy →
      failure.toDiagnostic = {
        severity := .error
        message := failure.message
        thrownBy := thrownBy
        details := "\n".intercalate (cause.texts.map ("caused by: " ++ ·))
        location := none } ∧
      failure.source? = some cause.link ∧
      (∀ steps, (cause.link.behind? steps).map ErrorLink.text = cause.texts[steps]?) ∧
      failure.toDiagnostic.render = "\n".intercalate
        (s!"error: {failure.message}" :: s!"Thrown by {thrownBy.display}" ::
          cause.texts.map ("caused by: " ++ ·))) ∧
    (∀ kind diagnostic, failure = .decode kind diagnostic ∨ failure = .translate kind diagnostic ∨
        failure = .generate kind diagnostic →
      failure.toDiagnostic = diagnostic ∧ diagnostic.render = failure.message) ∧
    ∀ (store : Store) index, store.errors[index]? = some failure →
      store.summary.lines[index + 1]? = some failure.toDiagnostic.render := by
  refine ⟨fun cause thrownBy caused => ?_, ?_, fun store index recorded => ?_⟩
  · refine ⟨caused.toDiagnostic, caused.source?, fun steps => ?_, caused.render⟩
    rw [ErrorLink.text_behind?, IoCause.texts_link]
  · rintro kind diagnostic (rfl | rfl | rfl)
    all_goals exact ⟨rfl, rfl⟩
  · have any : store.errors ≠ [] := by
      intro empty
      simp [empty] at recorded
    exact (Store.getElem?_lines_summary_iff (.inl any)).mpr (.error recorded)

end Failure

end StagedBuild
