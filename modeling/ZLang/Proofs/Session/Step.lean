import ZLang.Session.Basic

/-!
What a message can do to a session, whatever reads its URIs. The phase moves by the message alone
(`Phase.next`); the store changes only by an update, which a notification carries while the session
serves (`Message.update?`); each update is told to the editor at once, and nothing else is
published; and the answer to a message looks at no document but the one the message is about.

`step_handled` goes through the cases of a step once. The lemmas after it are all that later proofs
know of a step.
-/
set_option autoImplicit false

namespace ZLang.Session

/-! ## Updates -/

/-- A document gets a new text, or it is closed. -/
structure Update where
  uri : Uri
  document : Option Document
  deriving DecidableEq, Repr

/-- What the editor is told of an update. -/
def Update.notice : Update → Notice
  | ⟨uri, some d⟩ => .publish uri (Marker.ofDocument d.content) (some d.version)
  | ⟨uri, none⟩ => .publish uri [] none

/-- The update that a command asks for. Of several changes the last one counts, and no change at all
is no update. -/
def Command.update? : Command → Option Update
  | .didOpen uri d => some ⟨uri, some d⟩
  | .didChange uri version texts => texts.getLast?.map fun t => ⟨uri, some ⟨t, version⟩⟩
  | .didClose uri => some ⟨uri, none⟩
  | _ => none

/-- The document that a command is about. -/
def Command.uri? : Command → Option Uri
  | .didOpen uri _ | .didChange uri _ _ | .didClose uri => some uri
  | .hover uri _ | .completion uri _ => some uri
  | _ => none

theorem Command.uri?_of_update? {c : Command} {x : Update} (h : c.update? = some x) :
    c.uri? = some x.uri := by
  cases c with
  | didOpen uri d | didClose uri => cases h; rfl
  | didChange uri version texts =>
    obtain ⟨t, -, rfl⟩ := Option.map_eq_some_iff.mp h
    rfl
  | _ => cases h

def Store.update (s : Store) : Option Update → Store
  | none => s
  | some ⟨uri, some d⟩ => s.insert uri d
  | some ⟨uri, none⟩ => s.erase uri

@[simp] theorem Store.update_none (s : Store) : s.update none = s := rfl

@[simp] theorem Store.get?_update (s : Store) (x : Update) (u : Uri) :
    (s.update (some x)).get? u = if x.uri = u then x.document else s.get? u := by
  obtain ⟨uri, document⟩ := x
  cases document <;> simp [update, @eq_comm _ u]

/-! ## Messages -/

section Messages

variable (readUri : UriReader)

/-- What a message asks for, if its method is known and its parameters are right. -/
def Message.command? (m : Message) : Option Command :=
  (Method.ofName? m.method).bind fun method => method.command? readUri m.params

/-- The document that a message is about. -/
def Message.uri? (m : Message) : Option Uri := (m.command? readUri).bind Command.uri?

/-- The update that a message brings in a phase: it must be a notification, and the session must
serve. -/
def Message.update? (p : Phase) (m : Message) : Option Update :=
  if p = .initialized ∧ m.id = none then (m.command? readUri).bind Command.update? else none

/-- The phase after a message. -/
def Phase.next (p : Phase) (m : Message) : Phase :=
  match Method.ofName? m.method with
  | some .exit => .exited
  | some .setUp =>
    if p = .uninitialized ∧ m.id.isSome ∧ (m.command? readUri).isSome then .initialized else p
  | some .shutdown => if p = .initialized then .shutDown else p
  | _ => p

end Messages

variable {readUri : UriReader}

theorem Message.update?_of_ne {p : Phase} (m : Message) (hp : p ≠ .initialized) :
    m.update? readUri p = none := by
  rw [update?, if_neg fun h => hp h.1]

theorem Message.uri?_of_update? {p : Phase} {m : Message} {x : Update}
    (h : m.update? readUri p = some x) : m.uri? readUri = some x.uri := by
  rw [update?] at h
  split at h
  · obtain ⟨c, hc, hx⟩ := Option.bind_eq_some_iff.mp h
    rw [uri?, hc]
    exact Command.uri?_of_update? hx
  · cases h

/-! ## Methods and their commands -/

/-- The commands that a method can ask for. -/
def Method.Asks : Method → Command → Prop
  | .setUp, .setUp => True
  | .initialized, .initialized => True
  | .shutdown, .shutdown => True
  | .exit, .exit => True
  | .didOpen, .didOpen _ _ => True
  | .didChange, .didChange _ _ _ => True
  | .didClose, .didClose _ => True
  | .hover, .hover _ _ => True
  | .completion, .completion _ _ => True
  | .cancel, .unserved => True
  | .unservedRequest _, .unserved => True
  | .unservedNotification, .unserved => True
  | _, _ => False

theorem Method.asks_of_commandOf? (method : Method) (v : Json.Value) (c : Command)
    (h : method.commandOf? readUri v = some c) : method.Asks c := by
  cases method with
  | setUp | initialized | unservedRequest name =>
    simp only [commandOf?] at h
    split at h
    · cases h; trivial
    · cases h
  | shutdown => cases h
  | exit | cancel | unservedNotification => cases h; trivial
  | didOpen =>
    simp only [commandOf?, Option.bind_eq_bind, Option.bind_eq_some_iff] at h
    obtain ⟨vs, -, h⟩ := h
    split at h
    · obtain ⟨⟨u, d⟩, -, h⟩ := Option.bind_eq_some_iff.mp h
      cases h; trivial
    · cases h
  | didChange =>
    simp only [commandOf?, Option.bind_eq_bind, Option.bind_eq_some_iff] at h
    obtain ⟨vs, -, h⟩ := h
    split at h
    · obtain ⟨⟨u, version⟩, -, h⟩ := Option.bind_eq_some_iff.mp h
      simp only [Option.bind_eq_some_iff] at h
      obtain ⟨items, -, texts, -, h⟩ := h
      cases h; trivial
    · cases h
  | didClose =>
    simp only [commandOf?, Option.bind_eq_bind, Option.bind_eq_some_iff] at h
    obtain ⟨vs, -, h⟩ := h
    split at h
    · obtain ⟨u, -, h⟩ := Option.bind_eq_some_iff.mp h
      cases h; trivial
    · cases h
  | hover | completion =>
    simp only [commandOf?, Option.bind_eq_bind, Option.bind_eq_some_iff] at h
    obtain ⟨⟨u, p⟩, -, h⟩ := h
    cases h; trivial

theorem Method.asks_of_command? (method : Method) (params : Option Json.Value) (c : Command)
    (h : method.command? readUri params = some c) : method.Asks c := by
  cases params with
  | none => cases method <;> cases h <;> trivial
  | some v =>
    cases method
    case exit => cases h; trivial
    all_goals exact @asks_of_commandOf? readUri _ v c h

/-- Only notifications bring updates. -/
theorem Method.Asks.update?_eq_none {method : Method} {c : Command} (h : method.Asks c)
    (hr : method.isRequest = true) : c.update? = none := by
  cases c with
  | didOpen uri d | didChange uri version texts | didClose uri =>
    cases method <;> first | exact h.elim | exact absurd hr Bool.false_ne_true
  | _ => rfl

section Named

variable {p : Phase} {m : Message} {method : Method} (hm : Method.ofName? m.method = some method)

include hm

theorem Message.update?_of_command? {c : Command} (hp : p = .initialized)
    (hid : method.isRequest = m.id.isSome) (hc : method.command? readUri m.params = some c) :
    m.update? readUri p = c.update? := by
  rw [update?, command?, hm, Option.bind_some, hc, Option.bind_some]
  cases hi : m.id with
  | none => rw [if_pos ⟨hp, rfl⟩]
  | some i =>
    rw [if_neg fun h => by cases h.2]
    rw [hi] at hid
    exact ((Method.asks_of_command? method _ c hc).update?_eq_none hid).symm

theorem Message.update?_eq_none_of_asks
    (h : ∀ c, method.Asks c → m.id = none → c.update? = none) : m.update? readUri p = none := by
  rw [update?, command?, hm, Option.bind_some]
  split
  · rename_i hid
    cases hc : method.command? readUri m.params with
    | none => rfl
    | some c => exact h c (Method.asks_of_command? method _ c hc) hid.2
  · rfl

end Named

/-! ## Commands that are carried out -/

def Notice.isPublication : Notice → Bool
  | .publish _ _ _ => true
  | .log _ => false

/-- The publications among what is sent. -/
def Effect.publications (e : Effect) : List Notice := e.sent.filter Notice.isPublication

theorem perform_store (s : Store) (id : Option Id) (c : Command) :
    (perform s id c).1 = s.update c.update? := by
  cases c with
  | didChange uri version texts =>
    rw [perform, Command.update?]
    cases texts.getLast? <;> rfl
  | _ => rfl

theorem keep_publications (s : Store) (uri : Uri) (d : Document) :
    (keep s uri d).2.publications = [Update.notice ⟨uri, some d⟩] := by
  simp [Effect.publications, Update.notice, Notice.isPublication]

theorem perform_publications (s : Store) (id : Option Id) (c : Command) :
    (perform s id c).2.publications = c.update?.toList.map Update.notice := by
  cases c with
  | didOpen uri d => exact keep_publications s uri d
  | didChange uri version texts =>
    rw [perform, Command.update?]
    cases texts.getLast? with
    | none => rfl
    | some t => exact keep_publications s uri ⟨t, version⟩
  | _ => rfl

theorem perform_response_congr (s s' : Store) (id : Option Id) (c : Command)
    (h : ∀ u, c.uri? = some u → s.get? u = s'.get? u) :
    (perform s id c).2.response = (perform s' id c).2.response := by
  cases c with
  | didChange uri version texts =>
    rw [perform, perform]
    cases texts.getLast? <;> rfl
  | hover uri position => rw [perform, perform, hoverAnswer, hoverAnswer, h uri rfl]
  | completion uri position =>
    rw [perform, perform, completionAnswer, completionAnswer, h uri rfl]
  | _ => rfl

/-! ## The cases of a step -/

/-- A way to handle a message: its command is carried out on the store, or the store has no part in
it and nothing is sent. The phase moves on in either case. -/
def Handled (readUri : UriReader) (p : Phase) (m : Message) (f : Store → Session × Effect) : Prop :=
  (∃ c, m.command? readUri = some c ∧ m.update? readUri p = c.update? ∧
    ∀ s, f s = (⟨p.next readUri m, (perform s m.id c).1⟩, (perform s m.id c).2)) ∨
  (m.update? readUri p = none ∧
    ∃ e : Effect, e.sent = [] ∧ ∀ s, f s = (⟨p.next readUri m, s⟩, e))

section Cases

variable {p : Phase} {m : Message}

theorem setUp_handled (hm : Method.ofName? m.method = some .setUp) :
    Handled readUri p m fun s => setUp readUri ⟨p, s⟩ m := by
  refine .inr ⟨Message.update?_eq_none_of_asks hm fun c hc _ => hc.update?_eq_none rfl, ?_⟩
  have hcommand : m.command? readUri = Method.setUp.command? readUri m.params := by
    rw [Message.command?, hm, Option.bind_some]
  rw [Phase.next, hm, hcommand]
  by_cases hp : p = .uninitialized
  · cases hid : m.id with
    | none => exact ⟨.quiet, rfl, fun s => by simp [setUp, hp, hid]⟩
    | some i =>
      cases hc : Method.setUp.command? readUri m.params with
      | none =>
        exact ⟨.reply m.id (.error .invalidParams), rfl, fun s => by simp [setUp, hp, hid, hc]⟩
      | some c =>
        exact ⟨.reply m.id (.ok .capabilities), rfl, fun s => by simp [setUp, hp, hid, hc]⟩
  · exact ⟨.reply m.id (.error .invalidRequest), rfl, fun s => by simp [setUp, hp]⟩

theorem shutdown_handled (hm : Method.ofName? m.method = some .shutdown) :
    Handled readUri p m fun s => shutdown readUri ⟨p, s⟩ m := by
  refine .inr ⟨Message.update?_eq_none_of_asks hm fun c hc _ => hc.update?_eq_none rfl, ?_⟩
  rw [Phase.next, hm]
  by_cases hp : p = .initialized
  · cases hc : Method.shutdown.command? readUri m.params with
    | none => exact ⟨.reply m.id (.error .invalidParams), rfl, fun s => by simp [shutdown, hp, hc]⟩
    | some c => exact ⟨.reply m.id (.ok .nothing), rfl, fun s => by simp [shutdown, hp, hc]⟩
  · exact ⟨.reply m.id (.error p.fault), rfl, fun s => by simp [shutdown, hp]⟩

theorem serve_handled {method : Method} (hm : Method.ofName? m.method = some method)
    (hnext : p.next readUri m = p) :
    Handled readUri p m fun s => serve readUri ⟨p, s⟩ method m := by
  rw [Handled, hnext]
  by_cases hp : p = .initialized
  · by_cases hid : method.isRequest = m.id.isSome
    · cases hc : method.command? readUri m.params with
      | none =>
        refine .inr ⟨?_, .reply m.id (.error .invalidParams), rfl, fun s => ?_⟩
        · rw [Message.update?, Message.command?, hm, Option.bind_some, hc]
          exact ite_self none
        · simp [serve, hp, hid, hc]
      | some c =>
        refine .inl ⟨c, ?_, Message.update?_of_command? hm hp hid hc, fun s => ?_⟩
        · rw [Message.command?, hm, Option.bind_some, hc]
        · simp [serve, hp, hid, hc]
    · refine .inr ⟨Message.update?_eq_none_of_asks hm fun c hc hnone => ?_, mismatch m, rfl,
        fun s => by simp [serve, hp, hid]⟩
      -- a request that came as a notification
      rw [hnone, Option.isSome_none, Bool.not_eq_false] at hid
      exact hc.update?_eq_none hid
  · exact .inr ⟨m.update?_of_ne hp, .reply m.id (.error p.fault), rfl,
      fun s => by simp [serve, hp]⟩

theorem step_handled (readUri : UriReader) (p : Phase) (m : Message) :
    Handled readUri p m fun s => step readUri ⟨p, s⟩ m := by
  by_cases hx : p = .exited
  · have hnext : Phase.exited.next readUri m = .exited := by
      rw [Phase.next]
      split <;> rfl
    exact .inr ⟨m.update?_of_ne (by rw [hx]; decide), .quiet, rfl,
      fun s => by simp [step, hx, hnext]⟩
  · cases hm : Method.ofName? m.method with
    | none =>
      refine .inr ⟨?_, unknown m, ?_, fun s => by simp [step, hx, hm, Phase.next]⟩
      · rw [Message.update?, Message.command?, hm]
        exact ite_self none
      · unfold unknown
        split <;> rfl
    | some method =>
      cases method with
      | setUp => simpa [step, hx, hm] using setUp_handled hm
      | shutdown => simpa [step, hx, hm] using shutdown_handled hm
      | exit =>
        refine .inr ⟨Message.update?_eq_none_of_asks hm fun c hc _ => ?_, .quiet, rfl,
          fun s => by simp [step, hx, hm, Phase.next]⟩
        cases c <;> first | rfl | exact hc.elim
      | cancel =>
        refine .inr ⟨Message.update?_eq_none_of_asks hm fun c hc _ => ?_, mismatch m, rfl,
          fun s => by simp [step, hx, hm, Phase.next]⟩
        cases c <;> first | rfl | exact hc.elim
      | _ =>
        have hnext : p.next readUri m = p := by rw [Phase.next, hm]
        simpa [step, hx, hm] using serve_handled hm hnext

end Cases

/-! ## What a step does -/

/-- The phase moves by the message, the store by its update. -/
theorem step_session (readUri : UriReader) (s : Session) (m : Message) :
    (s.step readUri m).1 =
      ⟨s.phase.next readUri m, s.store.update (m.update? readUri s.phase)⟩ := by
  rcases step_handled readUri s.phase m with ⟨c, -, hu, hs⟩ | ⟨hu, e, -, hs⟩
  · have h : s.step readUri m = _ := hs s.store
    rw [h, hu, perform_store]
  · have h : s.step readUri m = _ := hs s.store
    rw [h, hu]
    rfl

/-- An update is published, and nothing else is. -/
theorem step_publications (readUri : UriReader) (s : Session) (m : Message) :
    (s.step readUri m).2.publications = (m.update? readUri s.phase).toList.map Update.notice := by
  rcases step_handled readUri s.phase m with ⟨c, -, hu, hs⟩ | ⟨hu, e, he, hs⟩
  · have h : s.step readUri m = _ := hs s.store
    rw [h, hu, perform_publications]
  · have h : s.step readUri m = _ := hs s.store
    rw [h, hu, Effect.publications, he]
    rfl

/-- The answer looks at no other document than the one the message is about. -/
theorem step_response_congr (readUri : UriReader) (s s' : Session) (m : Message)
    (hp : s.phase = s'.phase)
    (h : ∀ u, m.uri? readUri = some u → s.store.get? u = s'.store.get? u) :
    (s.step readUri m).2.response = (s'.step readUri m).2.response := by
  obtain ⟨p, store⟩ := s
  obtain ⟨p', store'⟩ := s'
  cases hp
  rcases step_handled readUri p m with ⟨c, hc, -, hs⟩ | ⟨-, e, -, hs⟩
  · have h1 : step readUri ⟨p, store⟩ m = _ := hs store
    have h2 : step readUri ⟨p, store'⟩ m = _ := hs store'
    rw [h1, h2]
    refine perform_response_congr store store' m.id c fun u hu => h u ?_
    rw [Message.uri?, hc]
    exact hu
  · have h1 : step readUri ⟨p, store⟩ m = _ := hs store
    have h2 : step readUri ⟨p, store'⟩ m = _ := hs store'
    rw [h1, h2]

end ZLang.Session
