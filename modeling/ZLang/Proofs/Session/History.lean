import ZLang.Proofs.Session.Step
import ZLang.Session.Wire

/-!
Whole sessions. The updates that a list of messages brings are read off the messages alone
(`updates`); the store after a run is what they leave, one after the other, and what the editor is
told is these updates, each at its message. So for each document the store and the last publication
both show the last update.
-/
set_option autoImplicit false

namespace ZLang.Session

/-! ## Histories -/

/-- The updates that messages bring, one place for each message, when the first of them finds the
session in phase `p`. -/
def updates (readUri : UriReader) : Phase → List Message → List (Option Update)
  | _, [] => []
  | p, m :: rest => m.update? readUri p :: updates readUri (p.next readUri m) rest

/-- The updates of one document. -/
def updatesOf (u : Uri) (history : List (Option Update)) : List Update :=
  history.filterMap fun x => x.filter fun y => y.uri == u

theorem updatesOf_cons (u : Uri) (o : Option Update) (history : List (Option Update)) :
    updatesOf u (o :: history) =
      (o.filter fun x => x.uri == u).toList ++ updatesOf u history := by
  rw [updatesOf, List.filterMap_cons]
  cases o.filter fun x => x.uri == u <;> rfl

/-- The last update decides what is stored. -/
theorem get?_foldl_update (u : Uri) (history : List (Option Update)) (s : Store) :
    (history.foldl Store.update s).get? u =
      match (updatesOf u history).getLast? with
      | some x => x.document
      | none => s.get? u := by
  induction history generalizing s with
  | nil => rfl
  | cons o history ih =>
    rw [List.foldl_cons, ih, updatesOf_cons]
    cases o with
    | none => rfl
    | some x =>
      by_cases hx : x.uri = u
      · simp only [Option.filter, hx, beq_self_eq_true, if_true, Option.toList_some,
          List.singleton_append, List.getLast?_cons, Store.get?_update]
        cases (updatesOf u history).getLast? <;> rfl
      · simp [Option.filter, hx]

/-! ## Publications for one document -/

def Notice.isFor (u : Uri) : Notice → Bool
  | .publish v _ _ => v == u
  | .log _ => false

/-- The publications for one document among what is sent. -/
def Effect.publicationsFor (u : Uri) (e : Effect) : List Notice :=
  e.publications.filter (Notice.isFor u)

theorem Update.isFor_notice (u : Uri) (x : Update) : x.notice.isFor u = (x.uri == u) := by
  obtain ⟨uri, document⟩ := x
  cases document <;> rfl

theorem filter_notices (u : Uri) (o : Option Update) :
    (o.toList.map Update.notice).filter (Notice.isFor u) =
      (o.filter fun x => x.uri == u).toList.map Update.notice := by
  cases o with
  | none => rfl
  | some x =>
    have h := x.isFor_notice u
    by_cases hx : (x.uri == u) = true
    · rw [hx] at h
      simp [Option.filter, hx, h]
    · rw [Bool.not_eq_true] at hx
      rw [hx] at h
      simp [Option.filter, hx, h]

theorem flatten_notices (u : Uri) (history : List (Option Update)) :
    (history.map fun o => (o.filter fun x => x.uri == u).toList.map Update.notice).flatten =
      (updatesOf u history).map Update.notice := by
  induction history with
  | nil => rfl
  | cons o history ih =>
    rw [List.map_cons, List.flatten_cons, ih, updatesOf_cons, List.map_append]

/-! ## Runs -/

section Runs

variable (readUri : UriReader)

theorem run_cons (s : Session) (m : Message) (rest : List Message) :
    s.run readUri (m :: rest) =
      (((s.step readUri m).1.run readUri rest).1,
        (s.step readUri m).2 :: ((s.step readUri m).1.run readUri rest).2) := rfl

theorem run_session (s : Session) (ms : List Message) :
    (s.run readUri ms).1 =
      ⟨ms.foldl (Phase.next readUri) s.phase,
        (updates readUri s.phase ms).foldl Store.update s.store⟩ := by
  induction ms generalizing s with
  | nil => rfl
  | cons m rest ih =>
    rw [run_cons, ih, step_session]
    rfl

theorem run_publications (s : Session) (ms : List Message) :
    (s.run readUri ms).2.map Effect.publications =
      (updates readUri s.phase ms).map fun o => o.toList.map Update.notice := by
  induction ms generalizing s with
  | nil => rfl
  | cons m rest ih =>
    rw [run_cons, List.map_cons, ih, step_publications, step_session]
    rfl

theorem run_publicationsFor (s : Session) (ms : List Message) (u : Uri) :
    (s.run readUri ms).2.map (Effect.publicationsFor u) =
      (updates readUri s.phase ms).map fun o =>
        (o.filter fun x => x.uri == u).toList.map Update.notice := by
  have h := congrArg (List.map (List.filter (Notice.isFor u))) (run_publications readUri s ms)
  rw [List.map_map, List.map_map] at h
  refine h.trans (List.map_congr_left fun o _ => ?_)
  exact filter_notices u o

end Runs

theorem uri_of_getLast?_updatesOf {u : Uri} {history : List (Option Update)} {x : Update}
    (h : (updatesOf u history).getLast? = some x) : x.uri = u := by
  obtain ⟨o, -, ho⟩ := List.mem_filterMap.mp (List.mem_of_getLast? h)
  exact eq_of_beq (Option.filter_eq_some_iff.mp ho).2

/-- After any messages, and however URIs are read, the store and the last publication for a document
both show its last update; every update is published once, at its own message, and nothing else is
published. -/
theorem run_shows_last_update (readUri : UriReader) (ms : List Message) (u : Uri) :
    let final := (start.run readUri ms).1
    let effects := (start.run readUri ms).2
    let history := updates readUri .uninitialized ms
    let told := effects.flatMap (Effect.publicationsFor u)
    final.phase = ms.foldl (Phase.next readUri) .uninitialized ∧
    effects.map (Effect.publicationsFor u) =
      history.map (fun o => (o.filter fun x => x.uri == u).toList.map Update.notice) ∧
    match (updatesOf u history).getLast? with
    | some ⟨_, some d⟩ =>
      final.store.get? u = some d ∧
        told.getLast? = some (.publish u (Marker.ofDocument d.content) (some d.version))
    | some ⟨_, none⟩ => final.store.get? u = none ∧ told.getLast? = some (.publish u [] none)
    | none => final.store.get? u = none ∧ told = [] := by
  intro final effects history told
  have hfinal : final = ⟨ms.foldl (Phase.next readUri) .uninitialized,
      history.foldl Store.update .empty⟩ := run_session readUri start ms
  have hstep : effects.map (Effect.publicationsFor u) = _ := run_publicationsFor readUri start ms u
  have htold : told = (updatesOf u history).map Update.notice := by
    rw [← flatten_notices]
    exact (List.flatMap_def ..).trans (congrArg List.flatten hstep)
  refine ⟨by rw [hfinal], hstep, ?_⟩
  rw [htold, hfinal, List.getLast?_map]
  simp only [get?_foldl_update]
  cases hlast : (updatesOf u history).getLast? with
  | none =>
    rw [List.getLast?_eq_none_iff.mp hlast]
    exact ⟨rfl, rfl⟩
  | some x =>
    obtain ⟨uri, document⟩ := x
    have huri : uri = u := uri_of_getLast?_updatesOf hlast
    subst huri
    cases document with
    | some d => exact ⟨rfl, rfl⟩
    | none => exact ⟨rfl, rfl⟩

/-! ## Messages of an editor -/

namespace Message

/-- A document in the parameters of a message. -/
def about (uri : String) (members : List (String × Json.Value)) : Json.Value :=
  Wire.object (members ++ [("uri", Wire.string uri)])

def starts : Message :=
  ⟨some (.number 1), "initialize".toList, some (Wire.object [("capabilities", Wire.object [])])⟩

def opens (uri text : String) (version : Int) : Message :=
  ⟨none, "textDocument/didOpen".toList, some (Wire.object [("textDocument",
    about uri [("languageId", Wire.string "zlang"), ("text", Wire.string text),
      ("version", .ofInt version)])])⟩

def changes (uri : String) (texts : List String) (version : Int) : Message :=
  ⟨none, "textDocument/didChange".toList, some (Wire.object
    [("contentChanges", .array (texts.map fun t => Wire.object [("text", Wire.string t)])),
      ("textDocument", about uri [("version", .ofInt version)])])⟩

def closes (uri : String) : Message :=
  ⟨none, "textDocument/didClose".toList, some (Wire.object [("textDocument", about uri [])])⟩

def hovers (uri : String) (p : Position) : Message :=
  ⟨some (.number 2), "textDocument/hover".toList, some (Wire.object
    [("position", Wire.ofPosition p.line p.character), ("textDocument", about uri [])])⟩

end Message

/-- Two documents under several spellings of their URIs. The first gets two new texts at once with a
version that goes back, and then a change without a text; the second is closed. -/
theorem run_shows_last_update_spellings :
    let ms := [Message.starts, .opens "file:///w/a.z" "LETT x = 5;" 4,
      .changes "file:///w/x/../a.z" ["(", "LETT y"] (-3), .changes "FILE:///w/./a.z" [] 9,
      .opens "file:///w/my file.z" "x;" 1, .closes "file://localhost/w/my%20file.z"]
    let final := (start.run Uri.parse ms).1
    let effects := (start.run Uri.parse ms).2
    let a : Uri := ⟨"file:///w/a.z".toList⟩
    let b : Uri := ⟨"file:///w/my%20file.z".toList⟩
    (effects.map fun e => (e.publicationsFor a).length) = [0, 1, 1, 0, 0, 0] ∧
    final.store.get? a = some ⟨"LETT y".toList, -3⟩ ∧
    (effects.flatMap (Effect.publicationsFor a)).getLast? =
      some (.publish a (Marker.ofDocument "LETT y".toList) (some (-3))) ∧
    (Marker.ofDocument "LETT y".toList).map Marker.rule = [.missingSemicolon] ∧
    (effects.map fun e => (e.publicationsFor b).length) = [0, 0, 0, 0, 1, 1] ∧
    final.store.get? b = none ∧
    (effects.flatMap (Effect.publicationsFor b)).getLast? = some (.publish b [] none) := by
  intro ms final effects a b
  have hhistory : updates Uri.parse .uninitialized ms =
      [none, some ⟨a, some ⟨"LETT x = 5;".toList, 4⟩⟩, some ⟨a, some ⟨"LETT y".toList, -3⟩⟩, none,
        some ⟨b, some ⟨"x;".toList, 1⟩⟩, some ⟨b, none⟩] := by decide +kernel
  obtain ⟨-, hsenta, hlasta⟩ := run_shows_last_update Uri.parse ms a
  obtain ⟨-, hsentb, hlastb⟩ := run_shows_last_update Uri.parse ms b
  rw [hhistory] at hsenta hlasta hsentb hlastb
  have hcounta := congrArg (List.map List.length) hsenta
  have hcountb := congrArg (List.map List.length) hsentb
  rw [List.map_map] at hcounta hcountb
  exact ⟨hcounta, hlasta.1, hlasta.2, by decide +kernel, hcountb, hlastb.1, hlastb.2⟩

end ZLang.Session
