import Mathlib.Data.List.Forall2
import Mathlib.Data.List.TakeWhile
import ZLang.Arguments

/-!
Arguments written for given values are read as these values. The options and flags may stand in any
order, and a value may stand behind an equals sign or, unless it starts with a dash, be an argument
of its own. The file stands last, behind two dashes, so that it can have any name.

The values read after some of the options are told by the names of those options alone, whatever
their order was: `Given.only`.
-/
set_option autoImplicit false

namespace ZLang.Arguments

/-! ## Command lines -/

inductive Item where
  | flag (n : Name)
  | valued (n : Name) (v : Text)
  deriving DecidableEq, Repr

namespace Item

def name : Item → Name
  | flag n => n
  | valued n _ => n

/-- What the item does to the values read before it. -/
def put : Item → Given → Except Stop Given
  | flag n, g => g.raise n
  | valued n v, g => g.set n v

/-- The arguments that an item can be written as. -/
inductive Spelled : Item → List Text → Prop where
  | flag (n : Name) : Spelled (flag n) ['-' :: '-' :: n.text]
  | joined (n : Name) (v : Text) : Spelled (valued n v) ['-' :: '-' :: (n.text ++ '=' :: v)]
  | apart (n : Name) (v : Text) (h : v.head? ≠ some '-') :
      Spelled (valued n v) ['-' :: '-' :: n.text, v]

end Item

namespace Given

/-- The options and flags that are present. -/
def items (g : Given) : List Item :=
  (g.format.map fun f => Item.valued .format f.name).toList ++
    (if g.pretty then [Item.flag .pretty] else []) ++
    (g.config.map (Item.valued .config)).toList ++ (g.logLevel.map (Item.valued .logLevel)).toList

/-- The options and flags of the names in `seen`, and no file. -/
def only (g : Given) (seen : List Name) : Given where
  file := none
  format := if .format ∈ seen then g.format else none
  pretty := decide (.pretty ∈ seen) && g.pretty
  config := if .config ∈ seen then g.config else none
  logLevel := if .logLevel ∈ seen then g.logLevel else none

end Given

/-- The end of a command line: the file behind two dashes. Without a file the dashes may stand
alone. -/
inductive Ending : Option Path → List Text → Prop where
  | absent : Ending none []
  | dashes : Ending none [['-', '-']]
  | file (p : Path) : Ending (some p) [['-', '-'], p]

/-! ## Items of given values -/

namespace Given

theorem mem_items_iff (g : Given) (i : Item) : i ∈ g.items ↔
    (∃ f, g.format = some f ∧ i = .valued .format f.name) ∨ (g.pretty = true ∧ i = .flag .pretty) ∨
      (∃ p, g.config = some p ∧ i = .valued .config p) ∨
      ∃ l, g.logLevel = some l ∧ i = .valued .logLevel l := by
  have hpretty : i ∈ (if g.pretty then [Item.flag .pretty] else []) ↔
      g.pretty = true ∧ i = .flag .pretty := by
    cases g.pretty <;> simp
  simp only [items, List.mem_append, Option.mem_toList, Option.map_eq_some_iff, or_assoc, hpretty,
    eq_comm (b := i)]

theorem names_sublist (g : Given) :
    (g.items.map Item.name).Sublist [.format, .pretty, .config, .logLevel] := by
  have hformat : ((g.format.map fun f => Item.valued .format f.name).toList.map Item.name).Sublist
      [.format] := by
    cases g.format <;> simp [Item.name]
  have hpretty : ((if g.pretty then [Item.flag .pretty] else []).map Item.name).Sublist
      [.pretty] := by
    cases g.pretty <;> simp [Item.name]
  have hvalued (n : Name) (v : Option Text) :
      ((v.map (Item.valued n)).toList.map Item.name).Sublist [n] := by
    cases v <;> simp [Item.name]
  rw [items, List.map_append, List.map_append, List.map_append]
  exact ((hformat.append hpretty).append (hvalued .config g.config)).append
    (hvalued .logLevel g.logLevel)

theorem nodup_names (g : Given) : (g.items.map Item.name).Nodup :=
  List.Nodup.sublist g.names_sublist (by decide)

theorem only_nil (g : Given) : g.only [] = .empty := by
  simp [only, empty]

/-- With all names that are present, nothing but the file is left out. -/
theorem only_eq_self {g : Given} {seen : List Name} (h : ∀ i ∈ g.items, i.name ∈ seen) :
    g.only seen = { g with file := none } := by
  have hformat : (if Name.format ∈ seen then g.format else none) = g.format := by
    cases hf : g.format with
    | none => exact ite_self none
    | some f => exact if_pos (h _ ((mem_items_iff g _).mpr (.inl ⟨f, hf, rfl⟩)))
  have hpretty : (decide (Name.pretty ∈ seen) && g.pretty) = g.pretty := by
    cases hp : g.pretty with
    | false => exact Bool.and_false _
    | true =>
      have hmem := h _ ((mem_items_iff g _).mpr (.inr (.inl ⟨hp, rfl⟩)))
      rw [Bool.and_true]
      exact decide_eq_true hmem
  have hconfig : (if Name.config ∈ seen then g.config else none) = g.config := by
    cases hp : g.config with
    | none => exact ite_self none
    | some p => exact if_pos (h _ ((mem_items_iff g _).mpr (.inr (.inr (.inl ⟨p, hp, rfl⟩)))))
  have hlevel : (if Name.logLevel ∈ seen then g.logLevel else none) = g.logLevel := by
    cases hl : g.logLevel with
    | none => exact ite_self none
    | some l => exact if_pos (h _ ((mem_items_iff g _).mpr (.inr (.inr (.inr ⟨l, hl, rfl⟩)))))
  rw [only, hformat, hpretty, hconfig, hlevel]

/-- A name read for the first time finds its field empty. -/
theorem put_only {g : Given} {seen : List Name} {i : Item} (hconfig : g.config ≠ some [])
    (hi : i ∈ g.items) (hseen : i.name ∉ seen) :
    i.put (g.only seen) = .ok (g.only (i.name :: seen)) := by
  rcases (mem_items_iff g i).mp hi with ⟨f, hf, rfl⟩ | ⟨hp, rfl⟩ | ⟨p, hp, rfl⟩ | ⟨l, hl, rfl⟩
  · have hname : Report.Format.ofName? f.name = some f := by
      cases f <;> decide
    simp only [Item.name] at hseen
    simp [Item.put, Item.name, set, only, hseen, hname, hf]
  · simp only [Item.name] at hseen
    simp [Item.put, Item.name, raise, only, hseen, hp]
  · have hne : p ≠ [] := by
      rintro rfl
      exact hconfig hp
    simp only [Item.name] at hseen
    simp [Item.put, Item.name, set, only, hseen, hp, hne]
  · simp only [Item.name] at hseen
    simp [Item.put, Item.name, set, only, hseen, hl]

end Given

/-! ## Reading one item -/

theorem find?_text (n : Name) : Grammar.checker.find? n.text = some n := by
  cases n <;> decide

theorem ne_equals_of_mem_text (n : Name) : ∀ c ∈ n.text, (c != '=') = true := by
  have hall : n.text.all (· != '=') = true := by
    cases n <;> decide
  exact List.all_eq_true.mp hall

theorem text_ne_nil (n : Name) : n.text ≠ [] := by
  cases n <;> decide

namespace Scan

/-- Nothing that was read stands in the way of another option or of a file, and `g` is given so
far, a value that still waits to be settled included. -/
structure Ready (s : Scan) (g : Given) : Prop where
  settle : s.settle = .ok g
  filesOnly : s.filesOnly = false
  hasFile : s.hasFile = false

variable {s : Scan} {g g' : Given}

theorem Ready.settled (hs : s.Ready g) (hfile : g'.file = none) : (s.settled g').Ready g' where
  settle := rfl
  filesOnly := hs.filesOnly
  hasFile := by simp [Scan.settled, Scan.hasFile, hfile]

theorem step_long (hs : s.filesOnly = false) {body : Text} (hbody : body ≠ []) :
    s.step .checker ('-' :: '-' :: body) = s.long .checker body := by
  obtain ⟨c, r, rfl⟩ := List.exists_cons_of_ne_nil hbody
  unfold step
  rw [hs]
  rfl

theorem long_text (s : Scan) (n : Name) : s.long .checker n.text =
    if n.takesValue then s.settle.map fun given => { s.settled given with pending := .option n }
    else (s.settle.bind fun given => given.raise n).map s.settled := by
  have htake : n.text.takeWhile (· != '=') = n.text :=
    List.takeWhile_eq_self_iff.mpr (ne_equals_of_mem_text n)
  have hdrop : n.text.dropWhile (· != '=') = [] :=
    List.dropWhile_eq_nil_iff.mpr (ne_equals_of_mem_text n)
  rw [long, htake, hdrop, find?_text]

theorem long_joined (s : Scan) (n : Name) (v : Text) : s.long .checker (n.text ++ '=' :: v) =
    if n.takesValue then (s.settle.bind fun given => given.set n v).map s.settled
    else .error (.fault .tooManyValues) := by
  have htake : (n.text ++ '=' :: v).takeWhile (· != '=') = n.text := by
    rw [List.takeWhile_append_of_pos (ne_equals_of_mem_text n),
      List.takeWhile_cons_of_neg (by simp), List.append_nil]
  have hdrop : (n.text ++ '=' :: v).dropWhile (· != '=') = '=' :: v := by
    rw [List.dropWhile_append_of_pos (ne_equals_of_mem_text n),
      List.dropWhile_cons_of_neg (by simp)]
  rw [long, htake, hdrop, find?_text]

/-- A word without a dash in front is the value of the option that waits for one. -/
theorem step_value (hs : s.filesOnly = false) {n : Name} (hn : s.pending = .option n) {v : Text}
    (hv : v.head? ≠ some '-') : s.step .checker v = .ok { s with pending := .value n v } := by
  have hfalse : ¬ s.filesOnly = true := by simp [hs]
  unfold step
  rw [if_neg hfalse]
  split
  · exact absurd rfl hv
  · exact absurd rfl hv
  · exact absurd rfl hv
  · rw [plain, hn]

theorem takesValue_of_set {n : Name} {v : Text} (h : g.set n v = .ok g') : n.takesValue = true := by
  cases n with
  | format => rfl
  | config => rfl
  | logLevel => rfl
  | pretty => cases h
  | help => cases h
  | version => cases h

theorem takesValue_of_raise {n : Name} (h : g.raise n = .ok g') : n.takesValue = false := by
  cases n with
  | pretty => rfl
  | help => rfl
  | version => rfl
  | format => cases h
  | config => cases h
  | logLevel => cases h

/-- Whatever its spelling, an item is read as one change of the values, though an argument of its
own is settled only later. -/
theorem Ready.foldlM_item (hs : s.Ready g) (hg : g.file = none) (hg' : g'.file = none) {i : Item}
    (hput : i.put g = .ok g') {args : List Text} (hargs : i.Spelled args) :
    ∃ s', args.foldlM (step .checker) s = .ok s' ∧ s'.Ready g' := by
  cases hargs with
  | flag n =>
    have hraise : g.raise n = .ok g' := hput
    refine ⟨s.settled g', ?_, hs.settled hg'⟩
    rw [List.foldlM_cons, step_long hs.filesOnly (text_ne_nil n), long_text,
      takesValue_of_raise hraise, hs.settle]
    simp only [Except.bind, hraise]
    rfl
  | joined n v =>
    have hset : g.set n v = .ok g' := hput
    refine ⟨s.settled g', ?_, hs.settled hg'⟩
    rw [List.foldlM_cons, step_long hs.filesOnly (by simp), long_joined, takesValue_of_set hset,
      hs.settle]
    simp only [Except.bind, hset]
    rfl
  | apart n v hv =>
    have hset : g.set n v = .ok g' := hput
    refine ⟨{ s.settled g with pending := .value n v }, ?_, hset, hs.filesOnly, ?_⟩
    · rw [List.foldlM_cons, step_long hs.filesOnly (text_ne_nil n), long_text,
        takesValue_of_set hset, hs.settle]
      have hvalue := step_value (s := { s.settled g with pending := .option n }) hs.filesOnly rfl hv
      change List.foldlM (step .checker) { s.settled g with pending := .option n } [v] = _
      rw [List.foldlM_cons, hvalue]
      rfl
    · simp [Scan.settled, Scan.hasFile, hg]

/-! ## Reading a command line -/

theorem foldlM_append_ok {args rest : List Text} {s s' : Scan}
    (h : args.foldlM (step .checker) s = .ok s') :
    (args ++ rest).foldlM (step .checker) s = rest.foldlM (step .checker) s' := by
  rw [List.foldlM_append, h]
  rfl

/-- Items of different names, none of them read before, are all read. -/
theorem foldlM_items {v : Given} (hconfig : v.config ≠ some []) {items : List Item}
    {words : List (List Text)} (hwords : List.Forall₂ Item.Spelled items words)
    (hmem : ∀ i ∈ items, i ∈ v.items) (hnodup : (items.map Item.name).Nodup) {seen : List Name}
    (hseen : ∀ i ∈ items, i.name ∉ seen) {s : Scan} (hs : s.Ready (v.only seen)) :
    ∃ s', words.flatten.foldlM (step .checker) s = .ok s' ∧
      s'.Ready (v.only ((items.map Item.name).reverse ++ seen)) := by
  induction hwords generalizing seen s with
  | nil => exact ⟨s, rfl, hs⟩
  | @cons i args items words hargs _ ih =>
    rw [List.map_cons, List.nodup_cons] at hnodup
    have hi := hmem i List.mem_cons_self
    have hput := Given.put_only hconfig hi (hseen i List.mem_cons_self)
    obtain ⟨s1, hread, hs1⟩ := hs.foldlM_item rfl rfl hput hargs
    have hfresh : ∀ j ∈ items, j.name ∉ i.name :: seen := by
      intro j hj hname
      rcases List.mem_cons.mp hname with hname | hname
      · exact hnodup.1 (List.mem_map.mpr ⟨j, hj, hname⟩)
      · exact hseen j (List.mem_cons_of_mem i hj) hname
    obtain ⟨s2, hrest, hs2⟩ :=
      ih (fun j hj => hmem j (List.mem_cons_of_mem i hj)) hnodup.2 hfresh hs1
    refine ⟨s2, ?_, ?_⟩
    · rw [List.flatten_cons, foldlM_append_ok hread, hrest]
    · rwa [List.map_cons, List.reverse_cons, List.append_assoc, List.singleton_append]

theorem ready_start : start.Ready .empty := ⟨rfl, rfl, rfl⟩

theorem step_dashes (hs : s.filesOnly = false) :
    s.step .checker ['-', '-'] = .ok { s with filesOnly := true } := by
  have hfalse : ¬ s.filesOnly = true := by simp [hs]
  unfold step
  rw [if_neg hfalse]
  rfl

/-- Behind the dashes an argument is the file, whatever it looks like. -/
theorem Ready.step_file (hs : s.Ready g) (p : Path) :
    step .checker { s with filesOnly := true } p = .ok ⟨g, .file p, true⟩ := by
  have hfile : Scan.hasFile { s with filesOnly := true } = false := hs.hasFile
  have hsettle : Scan.settle { s with filesOnly := true } = .ok g := hs.settle
  unfold step
  rw [if_pos rfl, positional, hfile, hsettle]
  rfl

theorem Ready.read_ending (hs : s.Ready g) (hg : g.file = none) {file : Option Path}
    (hfile : file ≠ some []) {args : List Text} (hargs : Ending file args) :
    (args.foldlM (step .checker) s).bind Scan.settle = .ok { g with file := file } := by
  cases hargs with
  | absent =>
    change s.settle = _
    rw [hs.settle, ← hg]
  | dashes =>
    rw [List.foldlM_cons, step_dashes hs.filesOnly]
    change s.settle = _
    rw [hs.settle, ← hg]
  | file p =>
    have hempty : ¬ p.isEmpty = true := by
      intro hp
      rw [List.isEmpty_iff] at hp
      exact hfile (congrArg some hp)
    rw [List.foldlM_cons, step_dashes hs.filesOnly]
    change (List.foldlM (step .checker) { s with filesOnly := true } [p]).bind Scan.settle = _
    rw [List.foldlM_cons, hs.step_file p]
    exact if_neg hempty

end Scan

/-- Arguments written for some values are read as these values: the options and flags that are
present in any order, each value behind an equals sign or, without a dash in front, on its own, and
the file last. -/
theorem parse_written (g : Given) (hfile : g.file ≠ some []) (hconfig : g.config ≠ some [])
    {items : List Item} (horder : items.Perm g.items) {words : List (List Text)}
    (hwords : List.Forall₂ Item.Spelled items words) {ending : List Text}
    (hending : Ending g.file ending) : parseChecker (words.flatten ++ ending) = .ok g := by
  have hnames : (items.map Item.name).Perm (g.items.map Item.name) := horder.map Item.name
  have hstart : Scan.start.Ready (g.only []) := by
    rw [Given.only_nil]
    exact Scan.ready_start
  obtain ⟨s, hread, hs⟩ := Scan.foldlM_items hconfig hwords (fun i hi => horder.mem_iff.mp hi)
    (hnames.nodup_iff.mpr g.nodup_names) (fun i _ => List.not_mem_nil) hstart
  have hall : g.only ((items.map Item.name).reverse ++ []) = { g with file := none } := by
    refine Given.only_eq_self fun i hi => ?_
    rw [List.append_nil, List.mem_reverse]
    exact List.mem_map_of_mem (horder.mem_iff.mpr hi)
  rw [hall] at hs
  rw [parseChecker, parse, Scan.foldlM_append_ok hread, hs.read_ending rfl hfile hending]

/-- A file named like a flag, a value with a dash and an equals sign, two values on their own. -/
theorem parse_written_dashes :
    let g : Given := ⟨some "--pretty".toList, some .json, true, some "-a=b".toList,
      some "off".toList⟩
    let items : List Item := [.valued .logLevel "off".toList, .flag .pretty,
      .valued .config "-a=b".toList, .valued .format "json".toList]
    let words : List (List Text) := [["--log-level".toList, "off".toList], ["--pretty".toList],
      ["--config=-a=b".toList], ["--format".toList, "json".toList]]
    let ending : List Text := ["--".toList, "--pretty".toList]
    g.file ≠ some [] ∧ g.config ≠ some [] ∧ items.Perm g.items ∧
      List.Forall₂ Item.Spelled items words ∧ Ending g.file ending ∧
      parseChecker (words.flatten ++ ending) = .ok g := by
  intro g items words ending
  have horder : items.Perm g.items := by decide
  have hwords : List.Forall₂ Item.Spelled items words :=
    .cons (.apart .logLevel _ (by decide)) (.cons (.flag .pretty) (.cons (.joined .config _)
      (.cons (.apart .format _ (by decide)) .nil)))
  have hending : Ending g.file ending := .file _
  exact ⟨by decide, by decide, horder, hwords, hending,
    parse_written g (by decide) (by decide) horder hwords hending⟩

end ZLang.Arguments
