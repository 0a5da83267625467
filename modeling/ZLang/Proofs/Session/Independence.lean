import ZLang.Proofs.Session.History

/-!
Documents do not interfere. Two runs are compared, one with all messages and one from which some
are left out. When what is left out is about other documents, the sessions stay alike in their phase
and in the entry of the one document (`Agree`), so its publications and the answers about it are the
same. Hover and completion requests leave no trace at all. Another document is one whose URI is read
as another one, however it is spelled.
-/
set_option autoImplicit false

namespace ZLang.Session

/-! ## Messages about documents -/

/-- The message opens, changes or closes a document, or asks for something in it. -/
def Message.isAboutDocument (m : Message) : Bool :=
  match Method.ofName? m.method with
  | some .didOpen | some .didChange | some .didClose | some .hover | some .completion => true
  | _ => false

/-- The message asks for a hover or for completions. -/
def Message.isQuestion (m : Message) : Bool :=
  match Method.ofName? m.method with
  | some .hover | some .completion => true
  | _ => false

/-- The message is about some document, and not about `u`. -/
def Message.IsElsewhere (readUri : UriReader) (u : Uri) (m : Message) : Prop :=
  m.isAboutDocument = true ∧ m.uri? readUri ≠ some u

instance (readUri : UriReader) (u : Uri) (m : Message) : Decidable (m.IsElsewhere readUri u) :=
  instDecidableAnd

section Messages

variable {readUri : UriReader}

theorem Phase.next_of_isAboutDocument (p : Phase) {m : Message} (h : m.isAboutDocument = true) :
    p.next readUri m = p := by
  rw [Message.isAboutDocument] at h
  rw [Phase.next]
  split at h <;> simp_all

theorem Message.isAboutDocument_of_isQuestion {m : Message} (h : m.isQuestion = true) :
    m.isAboutDocument = true := by
  rw [isQuestion] at h
  rw [isAboutDocument]
  split at h <;> simp_all

theorem Message.update?_of_isQuestion (readUri : UriReader) (p : Phase) {m : Message}
    (h : m.isQuestion = true) : m.update? readUri p = none := by
  rw [isQuestion] at h
  split at h
  · rename_i hm
    exact update?_eq_none_of_asks hm fun c hc _ => hc.update?_eq_none rfl
  · rename_i hm
    exact update?_eq_none_of_asks hm fun c hc _ => hc.update?_eq_none rfl
  · cases h

theorem Message.IsElsewhere.uri_ne {u : Uri} {m : Message} {p : Phase} {x : Update}
    (h : m.IsElsewhere readUri u) (hx : m.update? readUri p = some x) : x.uri ≠ u := by
  intro hu
  apply h.2
  rw [uri?_of_update? hx, hu]

end Messages

/-! ## One step -/

/-- Two sessions that look alike to one document. -/
structure Agree (u : Uri) (s t : Session) : Prop where
  phase : s.phase = t.phase
  entry : s.store.get? u = t.store.get? u

section Step

variable {readUri : UriReader} {u : Uri} {s t : Session} {m : Message}

theorem get?_update_congr (o : Option Update) (h : s.store.get? u = t.store.get? u) :
    (s.store.update o).get? u = (t.store.update o).get? u := by
  cases o <;> simp [h]

theorem Agree.step (h : Agree u s t) (m : Message) :
    Agree u (s.step readUri m).1 (t.step readUri m).1 := by
  rw [step_session, step_session, h.phase]
  exact ⟨rfl, get?_update_congr _ h.entry⟩

theorem Agree.step_left (h : Agree u s t) (hm : m.IsElsewhere readUri u) :
    Agree u (s.step readUri m).1 t := by
  rw [step_session]
  refine ⟨(Phase.next_of_isAboutDocument s.phase hm.1).trans h.phase, ?_⟩
  cases hx : m.update? readUri s.phase with
  | none => simp [h.entry]
  | some x => simp [hm.uri_ne hx, h.entry]

theorem step_publicationsFor (readUri : UriReader) (u : Uri) (s : Session) (m : Message) :
    (s.step readUri m).2.publicationsFor u =
      ((m.update? readUri s.phase).filter fun x => x.uri == u).toList.map Update.notice := by
  rw [Effect.publicationsFor, step_publications, filter_notices]

theorem step_publicationsFor_elsewhere (hm : m.IsElsewhere readUri u) :
    (s.step readUri m).2.publicationsFor u = [] := by
  rw [step_publicationsFor]
  cases hx : m.update? readUri s.phase with
  | none => rfl
  | some x => simp [Option.filter, hm.uri_ne hx]

theorem step_question (readUri : UriReader) (s : Session) (hm : m.isQuestion = true) :
    (s.step readUri m).1 = s ∧ (s.step readUri m).2.publications = [] := by
  have hu := Message.update?_of_isQuestion readUri s.phase hm
  have hnext : s.phase.next readUri m = s.phase :=
    s.phase.next_of_isAboutDocument (Message.isAboutDocument_of_isQuestion hm)
  constructor
  · rw [step_session, hu, hnext, Store.update_none]
  · rw [step_publications, hu]
    rfl

end Step

/-! ## Runs with messages left out -/

/-- Messages, each with a mark that says whether it stays. -/
abbrev Draft := List (Message × Bool)

namespace Draft

def whole (ms : Draft) : List Message := ms.map Prod.fst

def kept (ms : Draft) : List Message := (ms.filter Prod.snd).map Prod.fst

/-- Of things listed message by message, those that belong to messages that stay. -/
def remaining {α : Type} (ms : Draft) (xs : List α) : List α :=
  ((ms.zip xs).filter fun p => p.1.2).map Prod.snd

section Cons

variable {α : Type} (m : Message) (ms : Draft) (x : α) (xs : List α)

@[simp] theorem whole_cons (stays : Bool) : whole ((m, stays) :: ms) = m :: ms.whole := rfl

@[simp] theorem kept_cons_true : kept ((m, true) :: ms) = m :: ms.kept := rfl

@[simp] theorem kept_cons_false : kept ((m, false) :: ms) = ms.kept := rfl

@[simp] theorem remaining_cons_true :
    remaining ((m, true) :: ms) (x :: xs) = x :: ms.remaining xs := rfl

@[simp] theorem remaining_cons_false :
    remaining ((m, false) :: ms) (x :: xs) = ms.remaining xs := rfl

end Cons

end Draft

section Runs

variable (readUri : UriReader)

/-- The answers to hover and completion requests about `u`. -/
def answersAt (u : Uri) (ms : List Message) (effects : List Effect) : List (Option Response) :=
  ((ms.zip effects).filter fun p => p.1.isQuestion && p.1.uri? readUri == some u).map fun p =>
    p.2.response

theorem answersAt_cons (u : Uri) (m : Message) (ms : List Message) (e : Effect)
    (effects : List Effect) :
    answersAt readUri u (m :: ms) (e :: effects) =
      (if m.isQuestion && m.uri? readUri == some u then [e.response] else []) ++
        answersAt readUri u ms effects := by
  rw [answersAt, List.zip_cons_cons, List.filter_cons]
  split <;> rfl

variable {readUri}

theorem Agree.answersAt_cons {u : Uri} {s t : Session} (h : Agree u s t) (m : Message)
    (ms : List Message) {es fs : List Effect}
    (hrest : answersAt readUri u ms es = answersAt readUri u ms fs) :
    answersAt readUri u (m :: ms) ((s.step readUri m).2 :: es) =
      answersAt readUri u (m :: ms) ((t.step readUri m).2 :: fs) := by
  rw [Session.answersAt_cons, Session.answersAt_cons, hrest]
  split
  · rename_i hm
    rw [Bool.and_eq_true, beq_iff_eq] at hm
    have hresponse : (s.step readUri m).2.response = (t.step readUri m).2.response := by
      refine step_response_congr readUri s t m h.phase fun v hv => ?_
      rw [hm.2, Option.some.injEq] at hv
      rw [← hv]
      exact h.entry
    rw [hresponse]
  · rfl

/-- Sessions that look alike to a document still do after any messages, when one of them does not
see some that are about other documents. -/
theorem Agree.run {u : Uri} {ms : Draft} {s t : Session} (h : Agree u s t)
    (hms : ∀ x ∈ ms, x.2 = false → x.1.IsElsewhere readUri u) :
    Agree u (s.run readUri ms.whole).1 (t.run readUri ms.kept).1 ∧
    (s.run readUri ms.whole).2.flatMap (Effect.publicationsFor u) =
      (t.run readUri ms.kept).2.flatMap (Effect.publicationsFor u) ∧
    answersAt readUri u ms.kept (ms.remaining (s.run readUri ms.whole).2) =
      answersAt readUri u ms.kept (t.run readUri ms.kept).2 := by
  induction ms generalizing s t with
  | nil => exact ⟨h, rfl, rfl⟩
  | cons x ms ih =>
    obtain ⟨m, stays⟩ := x
    have hrest : ∀ x ∈ ms, x.2 = false → x.1.IsElsewhere readUri u := fun x hx =>
      hms x (List.mem_cons_of_mem _ hx)
    cases stays with
    | true =>
      obtain ⟨hagree, hpubs, hanswers⟩ := ih (h.step m) hrest
      simp only [Draft.whole_cons, Draft.kept_cons_true, run_cons, List.flatMap_cons,
        Draft.remaining_cons_true]
      refine ⟨hagree, ?_, h.answersAt_cons m _ hanswers⟩
      rw [step_publicationsFor, step_publicationsFor, h.phase, hpubs]
    | false =>
      have hm : m.IsElsewhere readUri u := hms (m, false) List.mem_cons_self rfl
      obtain ⟨hagree, hpubs, hanswers⟩ := ih (h.step_left hm) hrest
      simp only [Draft.whole_cons, Draft.kept_cons_false, run_cons, List.flatMap_cons,
        Draft.remaining_cons_false]
      refine ⟨hagree, ?_, hanswers⟩
      rw [step_publicationsFor_elsewhere hm, List.nil_append, hpubs]

theorem run_without_questions {ms : Draft} (s : Session)
    (hms : ∀ x ∈ ms, x.2 = false → x.1.isQuestion = true) :
    (s.run readUri ms.whole).1 = (s.run readUri ms.kept).1 ∧
    (s.run readUri ms.whole).2.flatMap Effect.publications =
      (s.run readUri ms.kept).2.flatMap Effect.publications ∧
    ms.remaining (s.run readUri ms.whole).2 = (s.run readUri ms.kept).2 := by
  induction ms generalizing s with
  | nil => exact ⟨rfl, rfl, rfl⟩
  | cons x ms ih =>
    obtain ⟨m, stays⟩ := x
    obtain ⟨hsession, hpubs, heffects⟩ := ih (s.step readUri m).1 fun x hx =>
      hms x (List.mem_cons_of_mem _ hx)
    cases stays with
    | true =>
      simp only [Draft.whole_cons, Draft.kept_cons_true, run_cons, List.flatMap_cons,
        Draft.remaining_cons_true]
      exact ⟨hsession, congrArg _ hpubs, congrArg _ heffects⟩
    | false =>
      obtain ⟨hsame, hnone⟩ := step_question readUri s (hms (m, false) List.mem_cons_self rfl)
      simp only [Draft.whole_cons, Draft.kept_cons_false, run_cons, List.flatMap_cons,
        Draft.remaining_cons_false, hnone, List.nil_append]
      rw [hsame] at hsession hpubs heffects ⊢
      exact ⟨hsession, hpubs, heffects⟩

end Runs

/-- However URIs are read, leaving out messages about other documents changes nothing that a
document sees: its entry, its publications and the answers about it. Leaving out hover and
completion requests changes nothing at all but their own answers. -/
theorem run_leaving_out (readUri : UriReader) (s : Session) (ms : Draft) :
    (∀ u, (∀ x ∈ ms, x.2 = false → x.1.IsElsewhere readUri u) →
      (s.run readUri ms.kept).1.store.get? u = (s.run readUri ms.whole).1.store.get? u ∧
      (s.run readUri ms.kept).2.flatMap (Effect.publicationsFor u) =
        (s.run readUri ms.whole).2.flatMap (Effect.publicationsFor u) ∧
      answersAt readUri u ms.kept (s.run readUri ms.kept).2 =
        answersAt readUri u ms.kept (ms.remaining (s.run readUri ms.whole).2)) ∧
    ((∀ x ∈ ms, x.2 = false → x.1.isQuestion = true) →
      (s.run readUri ms.kept).1 = (s.run readUri ms.whole).1 ∧
      (s.run readUri ms.kept).2.flatMap Effect.publications =
        (s.run readUri ms.whole).2.flatMap Effect.publications ∧
      (s.run readUri ms.kept).2 = ms.remaining (s.run readUri ms.whole).2) := by
  constructor
  · intro u hms
    have hself : Agree u s s := ⟨rfl, rfl⟩
    obtain ⟨hagree, hpubs, hanswers⟩ := hself.run hms
    exact ⟨hagree.entry.symm, hpubs.symm, hanswers.symm⟩
  · intro hms
    obtain ⟨hsession, hpubs, heffects⟩ := run_without_questions s hms
    exact ⟨hsession.symm, hpubs.symm, heffects.symm⟩

/-- Two documents are opened, one is closed again, and the editor asks about the first, whose URI it
spells in two ways. The marks are for what is about the second document, and for the request. -/
def twoDocuments (other question : Bool) : Draft :=
  [(.starts, true), (.opens "file:///w/a.z" "LETT x = 5" 1, true),
    (.opens "file:///w/b.z" "(" 1, other), (.closes "file:///w/x/../b.z", other),
    (.hovers "file:///w/x/../a.z" ⟨0, 1⟩, question)]

theorem run_leaving_out_two_documents :
    let u : Uri := ⟨"file:///w/a.z".toList⟩
    let others := twoDocuments false true
    let questions := twoDocuments true false
    let short := start.run Uri.parse others.kept
    let long := start.run Uri.parse others.whole
    (∀ x ∈ others, x.2 = false → x.1.IsElsewhere Uri.parse u) ∧ others.kept.length = 3 ∧
    (short.1.store.get? u = long.1.store.get? u ∧
      long.1.store.get? u = some ⟨"LETT x = 5".toList, 1⟩) ∧
    (short.2.flatMap (Effect.publicationsFor u) = long.2.flatMap (Effect.publicationsFor u) ∧
      long.2.flatMap (Effect.publicationsFor u) =
        [.publish u [⟨0, 10, .missingSemicolon, Rule.missingSemicolon.description⟩] (some 1)]) ∧
    (answersAt Uri.parse u others.kept short.2 =
        answersAt Uri.parse u others.kept (others.remaining long.2) ∧
      (answersAt Uri.parse u others.kept short.2).map
          (Option.map fun r => (r.id, r.outcome.toOption)) =
        [some (.number 2, some (.hover "**LETT**\n\nZ-LANG keyword".toList))]) ∧
    (∀ x ∈ questions, x.2 = false → x.1.isQuestion = true) ∧ questions.kept.length = 4 ∧
    (start.run Uri.parse questions.kept).1 = (start.run Uri.parse questions.whole).1 := by
  intro u others questions short long
  have hothers : ∀ x ∈ others, x.2 = false → x.1.IsElsewhere Uri.parse u := by decide +kernel
  have hquestions : ∀ x ∈ questions, x.2 = false → x.1.isQuestion = true := by decide +kernel
  have hlong : long.1.store.get? u = some ⟨"LETT x = 5".toList, 1⟩ ∧
      long.2.flatMap (Effect.publicationsFor u) =
        [.publish u [⟨0, 10, .missingSemicolon, Rule.missingSemicolon.description⟩] (some 1)] := by
    decide +kernel
  have hshort : (answersAt Uri.parse u others.kept short.2).map
        (Option.map fun r => (r.id, r.outcome.toOption)) =
      [some (.number 2, some (.hover "**LETT**\n\nZ-LANG keyword".toList))] := by decide +kernel
  obtain ⟨hentry, hpubs, hanswers⟩ := (run_leaving_out Uri.parse start others).1 u hothers
  exact ⟨hothers, by decide, ⟨hentry, hlong.1⟩, ⟨hpubs, hlong.2⟩, ⟨hanswers, hshort⟩, hquestions,
    by decide, ((run_leaving_out Uri.parse start questions).2 hquestions).1⟩

end ZLang.Session
