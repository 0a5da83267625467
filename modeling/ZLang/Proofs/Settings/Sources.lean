import ZLang.Program

/-!
Where the settings of a run come from. `Consults` says which file is consulted, `Gives` and `Fails`
what comes of that file alone, and `Layered` how flags, file and standard values lie over each
other. Main statement: however the text of a file is understood, these four decide the settings, and
no other file has a part in them.
-/
set_option autoImplicit false

namespace ZLang.Settings

/-! ## The file that is consulted -/

/-- The file asked for; else the project's, if it is a regular file; else the user's, likewise; else
none. -/
inductive Consults (fs : FileSystem) (place : Place) : Option Path → Option Path → Prop
  | explicit (path : Path) : Consults fs place (some path) (some path)
  | project (content : ByteArray) (h : fs.entry place.projectFile = .file content) :
      Consults fs place none (some place.projectFile)
  | user (path : Path) (content : ByteArray) (hproject : ∀ c, fs.entry place.projectFile ≠ .file c)
      (hpath : place.userFile? = some path) (h : fs.entry path = .file content) :
      Consults fs place none (some path)
  | nothing (hproject : ∀ c, fs.entry place.projectFile ≠ .file c)
      (huser : ∀ path, place.userFile? = some path → ∀ c, fs.entry path ≠ .file c) :
      Consults fs place none none

theorem consults_consulted (fs : FileSystem) (place : Place) (explicit : Option Path) :
    Consults fs place explicit (consulted fs place explicit) := by
  cases explicit with
  | some path => exact .explicit path
  | none =>
    cases hproject : fs.isFile place.projectFile with
    | true =>
      obtain ⟨content, h⟩ := (fs.isFile_iff _).mp hproject
      have hchoice : consulted fs place none = some place.projectFile := by
        simp [consulted, hproject]
      rw [hchoice]
      exact .project content h
    | false =>
      have hno := (fs.isFile_eq_false_iff _).mp hproject
      have hchoice : consulted fs place none = place.userFile?.filter fs.isFile := by
        simp [consulted, hproject]
      rw [hchoice]
      cases huser : place.userFile? with
      | none => exact .nothing hno fun path h => by rw [huser] at h; cases h
      | some path =>
        rw [Option.filter_some]
        cases hfile : fs.isFile path with
        | true =>
          obtain ⟨content, h⟩ := (fs.isFile_iff path).mp hfile
          exact .user path content hno huser h
        | false =>
          refine .nothing hno fun q hq => ?_
          rw [huser, Option.some.injEq] at hq
          exact hq ▸ (fs.isFile_eq_false_iff path).mp hfile

theorem Consults.unique {fs : FileSystem} {place : Place} {explicit file file' : Option Path}
    (h : Consults fs place explicit file) (h' : Consults fs place explicit file') :
    file = file' := by
  cases h with
  | explicit path => cases h' with
    | explicit => rfl
  | project content hc => cases h' with
    | project => rfl
    | user _ _ hno => exact absurd hc (hno content)
    | nothing hno => exact absurd hc (hno content)
  | user path content hno hpath hc => cases h' with
    | project _ hc' => exact absurd hc' (hno _)
    | user path' _ _ hpath' => exact hpath.symm.trans hpath'
    | nothing _ huser => exact absurd hc (huser path hpath content)
  | nothing hno huser => cases h' with
    | project _ hc => exact absurd hc (hno _)
    | user path content _ hpath hc => exact absurd hc (huser path hpath content)
    | nothing => rfl

theorem consults_iff (fs : FileSystem) (place : Place) (explicit file : Option Path) :
    Consults fs place explicit file ↔ file = consulted fs place explicit := by
  have hchoice := consults_consulted fs place explicit
  constructor
  · exact fun h => h.unique hchoice
  · rintro rfl
    exact hchoice

/-! ## What comes of it -/

section Reading

variable (parse : Text → Option File)

/-- The contents of the consulted file. When there is none, nothing is set. -/
inductive Gives (fs : FileSystem) : Option Path → File → Prop
  | nothing : Gives fs none File.empty
  | file (path : Path) (t : Text) (f : File)
      (ht : fs.entry path = .file (String.ofList t).toUTF8) (hf : parse t = some f) :
      Gives fs (some path) f

/-- The complaint about the consulted file: it is no text, or a text that is refused. -/
inductive Fails (fs : FileSystem) : Option Path → Text → Prop
  | unreadable (path : Path) (h : ∀ t : Text, fs.entry path ≠ .file (String.ofList t).toUTF8) :
      Fails fs (some path) ("Failed to read config file ".toList ++ path)
  | invalid (path : Path) (t : Text) (ht : fs.entry path = .file (String.ofList t).toUTF8)
      (hf : parse t = none) : Fails fs (some path) ("Invalid config file ".toList ++ path)

theorem readFile_of_entry {fs : FileSystem} {path : Path} {t : Text}
    (h : fs.entry path = .file (String.ofList t).toUTF8) :
    readFile parse fs path = (parse t).elim (.error (.invalid path)) .ok := by
  simp only [readFile, (fs.readText_eq_ok_iff path t).mpr h]
  cases parse t <;> rfl

theorem readFile_eq_ok_iff (fs : FileSystem) (path : Path) (f : File) :
    readFile parse fs path = .ok f ↔ Gives parse fs (some path) f := by
  constructor
  · intro h
    rw [readFile] at h
    split at h
    · cases h
    · next t ht =>
      split at h
      · cases h
      · next g hg =>
        cases h
        exact .file path t f ((fs.readText_eq_ok_iff path t).mp ht) hg
  · intro h
    cases h with
    | file _ t _ ht hf =>
      rw [readFile_of_entry parse ht, hf]
      rfl

theorem readFile_eq_error_iff (fs : FileSystem) (path : Path) (message : Text) :
    (∃ e, readFile parse fs path = .error e ∧ e.message = message) ↔
      Fails parse fs (some path) message := by
  constructor
  · rintro ⟨e, h, rfl⟩
    rw [readFile] at h
    split at h
    · next fault hfault =>
      cases h
      refine .unreadable path fun t ht => ?_
      rw [(fs.readText_eq_ok_iff path t).mpr ht] at hfault
      cases hfault
    · next t ht =>
      split at h
      · next hf =>
        cases h
        exact .invalid path t ((fs.readText_eq_ok_iff path t).mp ht) hf
      · cases h
  · intro h
    cases h with
    | unreadable _ h =>
      cases hread : fs.readText path with
      | error fault => exact ⟨.unreadable path fault, by rw [readFile, hread], rfl⟩
      | ok t => exact absurd ((fs.readText_eq_ok_iff path t).mp hread) (h t)
    | invalid _ t ht hf =>
      refine ⟨.invalid path, ?_, rfl⟩
      rw [readFile_of_entry parse ht, hf]
      rfl

theorem readFile_congr {fs fs' : FileSystem} {path : Path} (h : fs'.entry path = fs.entry path) :
    readFile parse fs' path = readFile parse fs path := by
  rw [readFile, readFile, FileSystem.readText, FileSystem.readText, h]

end Reading

/-! ## Layers -/

/-- Flags over the contents of a file over the standard values. -/
structure Layered (given : Arguments.Given) (f : File) (file : Option Path) (s : Settings) :
    Prop where
  format : s.format = (given.format.or f.format).getD .table
  pretty : s.pretty = true ↔ given.pretty = true ∨ f.pretty = some true
  lineHeight : s.geometry.lineHeight = f.lineHeight.getD 24.0
  verticalOffset : s.geometry.verticalOffset = f.verticalOffset.getD 10.0
  source : s.source = file

theorem layered_withFile (given : Arguments.Given) (f : File) (path : Path) :
    Layered given f (some path)
      ((standard.withFile f path).withFlags given.format given.pretty) where
  format := by cases given.format <;> rfl
  pretty := by
    cases hp : f.pretty with
    | none => simp [withFlags, withFile, standard, hp]
    | some b => simp [withFlags, withFile, hp, or_comm]
  lineHeight := rfl
  verticalOffset := rfl
  source := rfl

theorem layered_standard (given : Arguments.Given) :
    Layered given File.empty none (standard.withFlags given.format given.pretty) where
  format := by cases given.format <;> rfl
  pretty := by simp [withFlags, standard, File.empty]
  lineHeight := rfl
  verticalOffset := rfl
  source := rfl

theorem Layered.unique {given : Arguments.Given} {f : File} {file : Option Path} {s s' : Settings}
    (h : Layered given f file s) (h' : Layered given f file s') : s = s' := by
  obtain ⟨format, pretty, ⟨height, offset⟩, source⟩ := s
  obtain ⟨format', pretty', ⟨height', offset'⟩, source'⟩ := s'
  have hformat : format = format' := h.format.trans h'.format.symm
  have hpretty : pretty = pretty' := Bool.eq_iff_iff.mpr (h.pretty.trans h'.pretty.symm)
  have hheight : height = height' := h.lineHeight.trans h'.lineHeight.symm
  have hoffset : offset = offset' := h.verticalOffset.trans h'.verticalOffset.symm
  have hsource : source = source' := h.source.trans h'.source.symm
  rw [hformat, hpretty, hheight, hoffset, hsource]

end ZLang.Settings

namespace ZLang.Program.Checker

open Settings

/-! ## The settings of a run -/

section Consulted

variable (parse : Text → Option File) {fs : FileSystem} {place : Place} {given : Arguments.Given}

theorem settings_of_consults_none (h : Consults fs place given.config none) :
    settings parse fs place given =
      .ok (Settings.standard.withFlags given.format given.pretty) := by
  rw [settings, load, ← (consults_iff fs place given.config none).mp h]
  rfl

theorem settings_of_consults_some {path : Path} (h : Consults fs place given.config (some path)) :
    settings parse fs place given = (readFile parse fs path).map fun f =>
      (Settings.standard.withFile f path).withFlags given.format given.pretty := by
  have hload : load parse fs place given.config =
      (readFile parse fs path).map fun f => Settings.standard.withFile f path := by
    rw [load, ← (consults_iff fs place given.config (some path)).mp h]
  rw [settings, hload]
  cases readFile parse fs path <;> rfl

theorem settings_congr {fs' : FileSystem} {place' : Place} {file : Option Path}
    (h : Consults fs place given.config file) (h' : Consults fs' place' given.config file)
    (hentry : ∀ path ∈ file, fs'.entry path = fs.entry path) :
    settings parse fs' place' given = settings parse fs place given := by
  cases file with
  | none => rw [settings_of_consults_none parse h, settings_of_consults_none parse h']
  | some path =>
    rw [settings_of_consults_some parse h, settings_of_consults_some parse h',
      readFile_congr parse (hentry path rfl)]

theorem settings_eq_error_iff {file : Option Path} (h : Consults fs place given.config file)
    (message : Text) :
    (∃ e, settings parse fs place given = .error e ∧ e.message = message) ↔
      Fails parse fs file message := by
  cases file with
  | none =>
    rw [settings_of_consults_none parse h]
    constructor
    · rintro ⟨e, he, -⟩
      cases he
    · intro hfails
      cases hfails
  | some path =>
    rw [settings_of_consults_some parse h, ← readFile_eq_error_iff]
    cases readFile parse fs path <;> simp [Except.map]

theorem settings_eq_ok_iff {file : Option Path} (h : Consults fs place given.config file)
    (s : Settings) :
    settings parse fs place given = .ok s ↔
      ∃ f, Gives parse fs file f ∧ Layered given f file s := by
  cases file with
  | none =>
    rw [settings_of_consults_none parse h, Except.ok.injEq]
    constructor
    · rintro rfl
      exact ⟨File.empty, .nothing, layered_standard given⟩
    · rintro ⟨f, hf, hs⟩
      cases hf
      exact (layered_standard given).unique hs
  | some path =>
    rw [settings_of_consults_some parse h]
    constructor
    · intro hs
      cases hread : readFile parse fs path with
      | error e =>
        rw [hread] at hs
        cases hs
      | ok f =>
        rw [hread] at hs
        cases hs
        exact ⟨f, (readFile_eq_ok_iff parse fs path f).mp hread, layered_withFile given f path⟩
    · rintro ⟨f, hf, hs⟩
      rw [(readFile_eq_ok_iff parse fs path f).mpr hf, ← (layered_withFile given f path).unique hs]
      rfl

end Consulted

/-- At most one file is consulted. The settings depend on that file alone, fail exactly when it
fails, and else are made of its contents, the flags and the standard values. -/
theorem settings_from_one_file (parse : Text → Option File) (fs : FileSystem) (place : Place)
    (given : Arguments.Given) :
    ∃ file, (∀ file', Consults fs place given.config file' ↔ file' = file) ∧
      (∀ (fs' : FileSystem) (place' : Place), Consults fs' place' given.config file →
        (∀ path ∈ file, fs'.entry path = fs.entry path) →
        settings parse fs' place' given = settings parse fs place given) ∧
      (∀ message, (∃ e, settings parse fs place given = .error e ∧ e.message = message) ↔
        Fails parse fs file message) ∧
      (∀ s, settings parse fs place given = .ok s ↔
        ∃ f, Gives parse fs file f ∧ Layered given f file s) := by
  have hfile := consults_consulted fs place given.config
  refine ⟨consulted fs place given.config, ?_, ?_, ?_, ?_⟩
  · exact consults_iff fs place given.config
  · intro fs' place' hfile' hentry
    exact settings_congr parse hfile hfile' hentry
  · exact settings_eq_error_iff parse hfile
  · exact settings_eq_ok_iff parse hfile

/-- A project file beside a malformed user file, which is only found out when it is asked for. -/
theorem settings_from_one_file_hidden :
    let place : Place := ⟨"/work".toList, some "/home/.config".toList⟩
    let user := "/home/.config/zlang/config.toml".toList
    let pretty := "report.pretty = true".toList
    let broken := "[report".toList
    let alone : FileSystem := ⟨fun p =>
      if p = place.projectFile then .file (String.ofList pretty).toUTF8 else .absent⟩
    let both : FileSystem := ⟨fun p =>
      if p = user then .file (String.ofList broken).toUTF8 else alone.entry p⟩
    let given : Arguments.Given := ⟨none, some .json, false, none, none⟩
    place.projectFile = "/work/.zlang.toml".toList ∧ place.userFile? = some user ∧
    Consults both place none (some place.projectFile) ∧
    Consults alone place none (some place.projectFile) ∧
    settings File.parse both place given = settings File.parse alone place given ∧
    (∃ s, settings File.parse both place given = .ok s ∧ s.format = .json ∧ s.pretty = true) ∧
    ∃ e, settings File.parse both place { given with config := some user } = .error e ∧
      e.message = "Invalid config file ".toList ++ user := by
  intro place user pretty broken alone both given
  have halone : alone.entry place.projectFile = .file (String.ofList pretty).toUTF8 := by
    simp [alone]
  have hother : place.projectFile ≠ user := by decide
  have hboth : both.entry place.projectFile = .file (String.ofList pretty).toUTF8 := by
    simp [both, hother, halone]
  have hbroken : both.entry user = .file (String.ofList broken).toUTF8 := by simp [both]
  have hconsults : Consults both place none (some place.projectFile) := .project _ hboth
  refine ⟨by decide, by decide, hconsults, .project _ halone, ?_, ?_, ?_⟩
  · obtain ⟨file, hfile, hsame, -, -⟩ := settings_from_one_file File.parse alone place given
    obtain rfl := (hfile _).mp (.project _ halone)
    refine hsame both place hconsults ?_
    rintro path ⟨⟩
    rw [hboth, halone]
  · obtain ⟨file, hfile, -, -, hok⟩ := settings_from_one_file File.parse both place given
    obtain rfl := (hfile _).mp hconsults
    have hread : (File.parse pretty).map File.pretty = some (some true) := by decide +kernel
    obtain ⟨f, hf, hpretty⟩ := Option.map_eq_some_iff.mp hread
    have hs := layered_withFile given f place.projectFile
    exact ⟨_, (hok _).mpr ⟨f, .file _ _ f hboth hf, hs⟩, hs.format, hs.pretty.mpr (.inr hpretty)⟩
  · obtain ⟨file, hfile, -, herror, -⟩ :=
      settings_from_one_file File.parse both place { given with config := some user }
    obtain rfl := (hfile _).mp (.explicit user)
    have hparse : File.parse broken = none := Option.isNone_iff_eq_none.mp (by decide +kernel)
    exact (herror _).mpr (.invalid user broken hbroken hparse)

end ZLang.Program.Checker
