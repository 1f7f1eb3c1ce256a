import FilterSql.Application
import FilterSql.Proofs.SettingsAccepted
import FilterSql.Proofs.SettingsText

/-!
# `FilterSql.Proofs.Loading`: where a layout comes from

A layout is put together from what the user asks for, one settings
file, and the usual values. `Settings.SectionOf` says what the file
contributes, and `Settings.Layered` how the three are put together, each
entry for itself. Loading gives exactly the layouts that are layered in
this way and pass their check (`Settings.load_eq_ok_iff`), so the
compiler for such a layout can always be made. `Settings.Fails` lists the
errors with their causes, and `Settings.load_eq_error_iff` says that
there are no others.

Of all files only the one at the given path matters
(`Settings.load_congr`). This also holds for a directory tree, where
paths are followed step by step: take two trees that differ in nothing
but one file (`Files.SameButFor`), and a path that does not end there. It
leads to the same place in both, or it fails in both
(`Files.agree_follow`). It may fail for different reasons, when it goes
through that very file, but a missing file is reported by its path only.
-/

set_option autoImplicit false

namespace FilterSql

/-! ### Paths around a file -/

namespace Files

/-- Two directory trees that differ in nothing but one file, which may
hold anything and may be missing. -/
structure SameButFor (name : String) (tree tree' : Tree) : Prop where
  others : ∀ names, names ≠ [name] → tree.node? names = tree'.node? names
  file : ∀ node, tree.node? [name] = some node → ∃ content, node = .file content
  file' : ∀ node, tree'.node? [name] = some node → ∃ content, node = .file content

/-- The tree with the file differs from the one without it in nothing
else. -/
theorem sameButFor_append {name : String} {tree : Tree} (h : tree.node? [name] = none)
    (content : FileContent) : SameButFor name tree (tree ++ [([name], .file content)]) where
  others names hne := by
    have hfind : List.find? (fun entry : List String × Node => entry.1 = names)
        [([name], .file content)] = none := by
      simp [hne.symm]
    -- A directory is there for the files in it. The new file is in the root, which is there anyway.
    have hprefix : (names.isEmpty || names.isPrefixOf [name]) = names.isEmpty := by
      match names with
      | [] => rfl
      | [first] => simpa [List.isPrefixOf] using hne
      | _ :: _ :: _ => simp [List.isPrefixOf]
    unfold Tree.node?
    rw [List.find?_append, hfind, Option.or_none, List.any_append]
    split
    · rfl
    · simp only [List.any_cons, List.any_nil, Bool.or_false]
      rw [Bool.or_comm (tree.any _), ← Bool.or_assoc, hprefix]
  file node hnode := by
    rw [h] at hnode
    cases hnode
  file' node hnode := by
    have hfind : tree.find? (fun entry => entry.1 = [name]) = none := by
      unfold Tree.node? at h
      split at h
      · cases h
      · assumption
    have hnew : Tree.node? (tree ++ [([name], .file content)]) [name] = some (.file content) := by
      simp [Tree.node?, List.find?_append, hfind]
    rw [hnew] at hnode
    cases hnode
    exact ⟨content, rfl⟩

/-- Where a path starts. -/
def start (path : String) : Place :=
  if path.toList.head? = some '/' then .outside else .inside []

/-- A path ends at the file or directory with these names. -/
def EndsAt (tree : Tree) (path : String) (names : List String) : Prop :=
  follow tree (start path) (Text.segments '/' path) = .ok (.inside names)

/-- A path ends at one place. -/
theorem EndsAt.ne {tree : Tree} {path : String} {names names' : List String}
    (h : EndsAt tree path names) (hne : names ≠ names') : ¬ EndsAt tree path names' := by
  intro h'
  have hsame := h.symm.trans h'
  cases hsame
  exact hne rfl

/-- A place that is neither the file with this name nor below it. -/
def Place.Away (name : String) : Place → Prop
  | .inside names => names.head? ≠ some name
  | .outside => True

/-- A path has come to the file with this name, or it leads nowhere. -/
inductive Stuck (tree : Tree) (name : String) : Except ReadFault Place → Prop where
  | here (there : (tree.node? [name]).isSome = true) :
    Stuck tree name (.ok (.inside [name]))
  | failed {fault : ReadFault} (nowhere : fault.leadsSomewhere = false) :
    Stuck tree name (.error fault)

/-- How a path that starts away from the file ends in two trees that
differ in that file. -/
inductive Agree (tree tree' : Tree) (name : String) :
    Except ReadFault Place → Except ReadFault Place → Prop where
  | away {place : Place} (haway : place.Away name) :
    Agree tree tree' name (.ok place) (.ok place)
  | failed (fault : ReadFault) : Agree tree tree' name (.error fault) (.error fault)
  | stuck {r r' : Except ReadFault Place} (hr : Stuck tree name r) (hr' : Stuck tree' name r') :
    Agree tree tree' name r r'

/-- A place that is away from a file is not that file. -/
theorem Place.Away.ne {name : String} {names : List String}
    (h : (Place.inside names).Away name) : names ≠ [name] := by
  rintro rfl
  exact h rfl

/-- Going up leads away from it. -/
theorem Place.Away.parent {name : String} {place : Place} (h : place.Away name) :
    place.parent.Away name := by
  match place with
  | .outside | .inside [] | .inside [_] => simp [Place.parent, Place.Away]
  | .inside (_ :: _ :: _) => exact h

section

variable {tree tree' : Tree} {name : String}

/-- A path that is stuck stays so: no step leads on from a file. -/
theorem Stuck.follow (hfile : ∀ node, tree.node? [name] = some node → ∃ content, node = .file content)
    {r : Except ReadFault Place} (hr : Stuck tree name r) (parts : List String) :
    Stuck tree name (r >>= fun place => Files.follow tree place parts) := by
  cases hr with
  | failed nowhere => exact .failed nowhere
  | here there =>
      cases parts with
      | nil => exact .here there
      | cons part parts =>
          obtain ⟨node, hnode⟩ := Option.isSome_iff_exists.mp there
          obtain ⟨content, rfl⟩ := hfile node hnode
          have hisFile : Place.isFile tree (.inside [name]) = true := by
            simp [Place.isFile, hnode]
          rw [except_ok_bind, Files.follow, step, if_pos hisFile]
          exact .failed rfl

/-- One step from a place that is away from the file. The only step to
the file is the one from the root by its name. -/
theorem agree_step (h : SameButFor name tree tree') {place : Place} (hplace : place.Away name)
    (part : String) :
    Agree tree tree' name (step tree place part) (step tree' place part) := by
  have hisFile : place.isFile tree = place.isFile tree' := by
    cases place with
    | outside => rfl
    | inside names => simp only [Place.isFile, h.others names hplace.ne]
  simp only [step, hisFile]
  split
  · exact .failed _
  split
  · exact .away hplace
  split
  · exact .away hplace.parent
  split
  · exact .failed _
  cases place with
  | outside => exact .failed _
  | inside names =>
      dsimp only
      -- Either the step enters the file, or both trees allow it, or neither does.
      by_cases hentering : names ++ [part] = [name]
      · rw [hentering]
        refine .stuck ?_ ?_
        all_goals
          split
          · exact .here ‹_›
          · exact .failed rfl
      · simp only [h.others _ hentering]
        split
        · refine .away fun hhead => ?_
          match names with
          | [] =>
              have hpart : part = name := by simpa using hhead
              exact hentering (by rw [hpart, List.nil_append])
          | _ :: _ => exact hplace hhead
        · exact .failed _

/-- A whole path, by what one step does. -/
theorem agree_follow (h : SameButFor name tree tree') {place : Place} (hplace : place.Away name)
    (parts : List String) :
    Agree tree tree' name (follow tree place parts) (follow tree' place parts) := by
  induction parts generalizing place with
  | nil => exact .away hplace
  | cons part parts ih =>
      rw [follow, follow]
      match hr : step tree place part, hr' : step tree' place part, agree_step h hplace part with
      | _, _, .away haway => exact ih haway
      | _, _, .failed fault => exact .failed fault
      | _, _, .stuck hstuck hstuck' =>
          exact .stuck (hstuck.follow h.file parts) (hstuck'.follow h.file' parts)

/-- What is read away from the file. -/
theorem contentAt_of_away (h : SameButFor name tree tree') {place : Place}
    (hplace : place.Away name) : contentAt tree place = contentAt tree' place := by
  cases place with
  | outside => rfl
  | inside names => simp only [contentAt, h.others names hplace.ne]

/-- A path that gets stuck at the file, without ending there, leads to
no file. -/
theorem has_of_stuck {path : String} (hends : ¬ EndsAt tree path [name])
    (hstuck : Stuck tree name (follow tree (start path) (Text.segments '/' path))) :
    (ofTree tree).has path = false := by
  generalize hr : follow tree (start path) (Text.segments '/' path) = r at hstuck
  cases hstuck with
  | here there => exact absurd hr hends
  | @failed fault nowhere =>
      -- The path itself may be refused before it is followed.
      have hread : ofTree tree path = .error .missing ∨ ofTree tree path = .error .nameTooLong ∨
          ofTree tree path = .error fault := by
        simp only [ofTree]
        split
        · exact .inl rfl
        split
        · exact .inr (.inl rfl)
        · exact .inr (.inr (by rw [← start, hr, except_error_bind]))
      rcases hread with hread | hread | hread
      · simp [has, hread, ReadFault.leadsSomewhere]
      · simp [has, hread, ReadFault.leadsSomewhere]
      · simp [has, hread, nowhere]

/-- A path that does not end at the file reads the same in both trees,
or it leads nowhere in both. -/
theorem ofTree_agree (h : SameButFor name tree tree') {path : String}
    (hends : ¬ EndsAt tree path [name]) (hends' : ¬ EndsAt tree' path [name]) :
    ofTree tree path = ofTree tree' path ∨
      (ofTree tree).has path = false ∧ (ofTree tree').has path = false := by
  -- No path starts at the file.
  have hstart : (start path).Away name := by
    unfold start
    split
    · trivial
    · nofun
  have hagree := agree_follow h hstart (Text.segments '/' path)
  generalize hr : follow tree (start path) (Text.segments '/' path) = r at hagree
  generalize hr' : follow tree' (start path) (Text.segments '/' path) = r' at hagree
  cases hagree with
  | away haway =>
      refine .inl ?_
      simp only [ofTree]
      rw [← start, hr, hr', except_ok_bind, except_ok_bind, contentAt_of_away h haway]
  | failed fault =>
      refine .inl ?_
      simp only [ofTree]
      rw [← start, hr, hr', except_error_bind, except_error_bind]
  | stuck hstuck hstuck' =>
      exact .inr ⟨has_of_stuck hends (hr ▸ hstuck), has_of_stuck hends' (hr' ▸ hstuck')⟩

end

/-- A path with a text leads somewhere. -/
theorem has_of_text {files : Files} {path content : String} (h : files.text path = .ok content) :
    files.has path = true := by
  cases hread : files path with
  | ok found => simp [has, hread]
  | error fault => simp [text, hread] at h

end Files

/-! ### The file that is consulted -/

namespace Settings

/-- The settings file that is consulted, if any: the one that the user
names, or else the usual one where it is there. -/
def consulted (options : Options) (files : Files) : Option String :=
  match options.config with
  | some path => some path
  | none => if files.has usualFile then some usualFile else none

/-- What the consulted file says about the layout. Without a file, or
without a section in it, nothing is said. -/
inductive SectionOf (options : Options) (files : Files) : Section → Prop where
  | noFile (hfile : consulted options files = none) : SectionOf options files {}
  | file {path text : String} {contents : Contents}
    (hfile : consulted options files = some path) (htext : files.text path = .ok text)
    (hread : Contents.read text = .ok contents) : SectionOf options files contents.layoutSection

/-- A layout is put together entry by entry: what the user asks for,
else what the section says unless it is `null`, else the usual value. -/
structure Layered (options : Options) (s : Section) (layout : Layout) : Prop where
  backend : layout.backend = (options.backend.or s.backend.join).getD .hana
  metadataColumn : layout.metadataColumn =
    (options.metadataColumn.or s.metadataColumn.join).getD "VEC_META"
  specificColumns : layout.specificColumns =
    (options.specificColumns.or s.specificColumns.join).getD []

/-- The three sources are put together as `layered` does it. -/
theorem layered_iff {options : Options} {s : Section} {layout : Layout} :
    Layered options s layout ↔ layout = layered options s := by
  have hlayered : Layered options s (layered options s) := by
    constructor
    · cases hentry : options.backend <;> simp [layered, Section.toLayout, hentry]
    · cases hentry : options.metadataColumn <;> simp [layered, Section.toLayout, hentry]
    · cases hentry : options.specificColumns <;> simp [layered, Section.toLayout, hentry]
  constructor
  · rintro ⟨hbackend, hmetadata, hspecific⟩
    rw [← hlayered.backend] at hbackend
    rw [← hlayered.metadataColumn] at hmetadata
    rw [← hlayered.specificColumns] at hspecific
    cases layout
    simp_all
  · rintro rfl
    exact hlayered

/-- Why there is no layout. A file that has to be read has to be
readable, whatever the user asks for. -/
inductive Fails (options : Options) (files : Files) : LoadError → Prop where
  | notFound {path : String} (hconfig : options.config = some path)
    (hmissing : files.has path = false) : Fails options files (.notFound path)
  | unreadable {path : String} {fault : ReadFault}
    (hfile : consulted options files = some path) (hthere : files.has path = true)
    (htext : files.text path = .error fault) : Fails options files (.unreadable path fault)
  | malformed {path text : String} {defect : Json.Defect}
    (hfile : consulted options files = some path) (htext : files.text path = .ok text)
    (hread : Contents.read text = .error defect) : Fails options files (.malformed path defect)
  | invalid {s : Section} {layout : Layout} {error : Error}
    (hsection : SectionOf options files s) (hlayered : Layered options s layout)
    (hcheck : layout.check = .error error) : Fails options files (.invalid error)

/-! ### Loading -/

/-- The events of loading do not change what is loaded. -/
theorem loadContents_outcome (files : Files) (path : String) :
    (loadContents files (some path)).outcome = contentsOf files path := by
  simp only [loadContents, Traced.outcome_bind, Traced.outcome_emit, Traced.outcome_ofExcept,
    except_ok_bind]
  cases contentsOf files path with
  | error e => rfl
  | ok contents =>
      rw [except_ok_bind]
      split <;> rfl

/-- Loading without its events. -/
theorem load_outcome (options : Options) (files : Files) :
    (load options files).outcome = (do
      let path ← chosenFile options files
      let contents ← (loadContents files path).outcome
      ((layered options contents.layoutSection).check.mapError LoadError.invalid) >>= fun _ =>
        .ok (layered options contents.layoutSection)) := by
  simp only [load, Traced.outcome_bind, Traced.outcome_emit, Traced.outcome_ofExcept,
    Traced.outcome_pure, except_ok_bind]

section

variable {options : Options} {files : Files}

/-- A file that is consulted and is there is the one that is read. -/
theorem chosenFile_of_has {path : String} (hfile : consulted options files = some path)
    (hhas : files.has path = true) : chosenFile options files = .ok (some path) := by
  unfold consulted at hfile
  unfold chosenFile
  cases hconfig : options.config with
  | some named =>
      rw [hconfig] at hfile
      cases hfile
      exact if_pos hhas
  | none => simpa [hconfig] using hfile

/-- Where no file is consulted none is chosen. -/
theorem chosenFile_of_none (hfile : consulted options files = none) :
    chosenFile options files = .ok none := by
  unfold consulted at hfile
  unfold chosenFile
  cases hconfig : options.config with
  | some named => simp [hconfig] at hfile
  | none => simpa [hconfig] using hfile

/-- A missing file was named by the user: the usual one is consulted
only where it is there. -/
theorem config_of_not_has {path : String} (hfile : consulted options files = some path)
    (hhas : files.has path = false) : options.config = some path := by
  unfold consulted at hfile
  cases hconfig : options.config with
  | some named => simpa [hconfig] using hfile
  | none =>
      obtain ⟨husual, rfl⟩ : files.has usualFile = true ∧ usualFile = path := by
        simpa [hconfig] using hfile
      simp [husual] at hhas

/-- Once the section is known, only the check is left. -/
theorem load_of_section {s : Section} (h : SectionOf options files s) :
    (load options files).outcome =
      (((layered options s).check.mapError LoadError.invalid) >>= fun _ =>
        .ok (layered options s)) := by
  rw [load_outcome]
  cases h with
  | noFile hfile => rw [chosenFile_of_none hfile]; rfl
  | file hfile htext hread =>
      rw [chosenFile_of_has hfile (Files.has_of_text htext), except_ok_bind, loadContents_outcome,
        contentsOf, htext]
      simp only [except_mapError_ok, except_ok_bind, hread]

/-- Every listed cause makes loading fail with its error. -/
theorem load_of_fails {e : LoadError} (h : Fails options files e) :
    (load options files).outcome = .error e := by
  cases h with
  | notFound hconfig hmissing => simp [load_outcome, chosenFile, hconfig, hmissing]
  | unreadable hfile hthere htext =>
      rw [load_outcome, chosenFile_of_has hfile hthere, except_ok_bind, loadContents_outcome,
        contentsOf, htext]
      rfl
  | malformed hfile htext hread =>
      rw [load_outcome, chosenFile_of_has hfile (Files.has_of_text htext), except_ok_bind,
        loadContents_outcome, contentsOf, htext]
      simp only [except_mapError_ok, except_mapError_error, except_ok_bind, hread, except_error_bind]
  | invalid hsection hlayered hcheck =>
      rw [load_of_section hsection, ← layered_iff.mp hlayered, hcheck]
      rfl

/-- The consulted file gives a section, or it is the cause of an
error. -/
theorem section_or_fails (options : Options) (files : Files) :
    (∃ s, SectionOf options files s) ∨ ∃ e, Fails options files e := by
  cases hfile : consulted options files with
  | none => exact .inl ⟨_, .noFile hfile⟩
  | some path =>
      cases hhas : files.has path with
      | false => exact .inr ⟨_, .notFound (config_of_not_has hfile hhas) hhas⟩
      | true =>
          cases htext : files.text path with
          | error fault => exact .inr ⟨_, .unreadable hfile hhas htext⟩
          | ok text =>
              cases hread : Contents.read text with
              | error defect => exact .inr ⟨_, .malformed hfile htext hread⟩
              | ok contents => exact .inl ⟨_, .file hfile htext hread⟩

/-- Loading gives the layered layout, if it passes its check. -/
theorem load_eq_ok_iff {layout : Layout} :
    (load options files).outcome = .ok layout ↔
      ∃ s, SectionOf options files s ∧ Layered options s layout ∧ layout.check = .ok () := by
  constructor
  · intro h
    rcases section_or_fails options files with ⟨s, hs⟩ | ⟨e, he⟩
    · rw [load_of_section hs, except_bind_eq_ok_iff] at h
      obtain ⟨⟨⟩, hcheck, hlayout⟩ := h
      cases hlayout
      exact ⟨s, hs, layered_iff.mpr rfl, except_mapError_eq_ok_iff.mp hcheck⟩
    · rw [load_of_fails he] at h
      cases h
  · rintro ⟨s, hs, hlayered, hcheck⟩
    rw [load_of_section hs, ← layered_iff.mp hlayered, hcheck]
    rfl

/-- The errors of loading are those that have a cause. -/
theorem load_eq_error_iff {e : LoadError} :
    (load options files).outcome = .error e ↔ Fails options files e := by
  refine ⟨fun h => ?_, load_of_fails⟩
  rcases section_or_fails options files with ⟨s, hs⟩ | ⟨e', he'⟩
  · cases hcheck : (layered options s).check with
    | error error =>
        have hfails := Fails.invalid hs (layered_iff.mpr rfl) hcheck
        rw [load_of_fails hfails] at h
        cases h
        exact hfails
    | ok =>
        rw [load_of_section hs, hcheck] at h
        cases h
  · rw [load_of_fails he'] at h
    cases h
    exact he'

/-- With a file named by the user, loading depends on what is found at
that path, and on nothing else. -/
theorem load_congr {files' : Files} {path : String} (hconfig : options.config = some path)
    (hhas : files.has path = files'.has path)
    (htext : files.has path = true → files.text path = files'.text path) :
    load options files = load options files' := by
  have hchosen : chosenFile options files = chosenFile options files' := by
    simp only [chosenFile, hconfig, hhas]
  unfold load
  cases h : files.has path with
  | false =>
      -- The text of a path that leads nowhere is not looked at, so it may differ.
      have hmissing : chosenFile options files = .error (.notFound path) := by
        simp [chosenFile, hconfig, h]
      rw [← hchosen, hmissing]
      simp only [Traced.ofExcept_error_bind]
  | true =>
      have hfound : chosenFile options files = .ok (some path) := by
        simp [chosenFile, hconfig, h]
      have hcontents : contentsOf files path = contentsOf files' path := by
        simp only [contentsOf, htext h]
      rw [← hchosen, hfound]
      simp only [Traced.ofExcept_ok_bind, loadContents, hcontents]

end

/-- A file that the path does not end at does not matter. -/
theorem load_of_sameButFor {options : Options} {path name : String}
    (hconfig : options.config = some path) {tree tree' : Files.Tree}
    (hsame : Files.SameButFor name tree tree') (hends : ¬ Files.EndsAt tree path [name])
    (hends' : ¬ Files.EndsAt tree' path [name]) :
    load options (.ofTree tree) = load options (.ofTree tree') := by
  rcases Files.ofTree_agree hsame hends hends' with hread | ⟨hmissing, hmissing'⟩
  · refine load_congr hconfig ?_ fun _ => ?_
    · simp only [Files.has, hread]
    · simp only [Files.text, hread]
  · refine load_congr hconfig (hmissing.trans hmissing'.symm) fun hhas => ?_
    rw [hmissing] at hhas
    cases hhas

end Settings

/-! ### The next step of a run -/

/-- A layout that passes its check has a compiler. -/
theorem Compiler.ofLayout_of_check {layout : Layout} (h : layout.check = .ok ()) :
    Compiler.ofLayout layout = .ok ⟨layout, h⟩ := by
  unfold Compiler.ofLayout
  split <;> simp_all

/-- A sequence fails in its first part or in its second. -/
theorem except_bind_eq_error_iff {ε α β : Type} {x : Except ε α} {f : α → Except ε β} {e : ε} :
    x >>= f = .error e ↔ x = .error e ∨ ∃ a, x = .ok a ∧ f a = .error e := by
  cases x <;> simp

/-- An error that was changed comes from another one. -/
theorem except_mapError_eq_error_iff {ε ε' α : Type} {f : ε → ε'} {x : Except ε α} {e : ε'} :
    x.mapError f = .error e ↔ ∃ d, x = .error d ∧ f d = e := by
  cases x <;> simp

/-- No run fails for a layout that it has loaded. -/
theorem Application.perform_ne_layout (files : Files) (stdin : String)
    (invocation : CommandLine.Invocation) (error : Error) :
    (perform files stdin invocation).outcome ≠ .error (.layout error) := by
  intro h
  unfold perform at h
  split at h
  · cases h
  -- Each part of the run has a kind of failure of its own, so it is the second one that fails.
  · simp only [Traced.outcome_bind, failingWith, Traced.outcome_ofExcept, Traced.outcome_pure,
      except_bind_eq_error_iff, except_mapError_eq_error_iff, except_mapError_eq_ok_iff] at h
    rcases h with ⟨e, -, ⟨⟩⟩ | ⟨layout, hload, h⟩
    obtain ⟨s, -, -, hcheck⟩ := Settings.load_eq_ok_iff.mp hload
    rcases h with ⟨e, hmake, -⟩ | ⟨compiler, -, h⟩
    · rw [Compiler.ofLayout_of_check hcheck] at hmake
      cases hmake
    rcases h with htext | ⟨text, -, h⟩
    · unfold filterText at htext
      split at htext
      · cases htext
      · obtain ⟨fault, -, ⟨⟩⟩ := except_mapError_eq_error_iff.mp htext
      · cases htext
    rcases h with ⟨e, -, ⟨⟩⟩ | ⟨clause, -, ⟨⟩⟩

namespace Settings

open Json (Tree)
open Json.Grammar

/-- The section of the consulted file, as its text has it and, if it can
be read as a value, its document. The text always is JSON. -/
theorem SectionOf.saidIn {options : Options} {files : Files} {s : Section}
    (h : SectionOf options files s) {path text : String}
    (hfile : consulted options files = some path) (htext : files.text path = .ok text) :
    (∃ tree, IsDocument tree text) ∧ (∀ tree, IsDocument tree text → s.SaidIn tree) ∧
      ∀ doc, Json.read text = .ok doc → s.SaidIn doc.tree := by
  cases h with
  | noFile hnone => cases hnone.symm.trans hfile
  | file hpath hcontent hread =>
      cases hpath.symm.trans hfile
      cases hcontent.symm.trans htext
      exact ⟨Contents.exists_isDocument hread, fun tree => Contents.saidIn_of_isDocument hread,
        fun doc => Contents.saidIn_of_read hread⟩

/-- Loading puts the layout together entry by entry, from what the user
asks for, the section of the one file that is consulted and the usual
values. The file is JSON, and the section is the one that its text
spells, also where the values that nobody looks at are out of range, hold
half of a pair or are nested beyond every limit; if the full reader takes
the file, it is the section of the document that it reads. What is loaded
passes its check, so that the compiler for it can be made and no run
fails there. With a file named by the user no other file matters, and the
usual one in particular may hold anything or be missing. There is no
layout if the named file is missing, the consulted one cannot be read or
is malformed, or the layered layout does not pass its check, and in no
other case. -/
theorem load_is_layered (options : Options) (files : Files) :
    (∀ layout, (load options files).outcome = .ok layout →
      (∃ s, SectionOf options files s ∧ Layered options s layout ∧
        ∀ path text, consulted options files = some path → files.text path = .ok text →
          (∃ tree, IsDocument tree text) ∧ (∀ tree, IsDocument tree text → s.SaidIn tree) ∧
          ∀ doc, Json.read text = .ok doc → s.SaidIn doc.tree) ∧
      layout.check = .ok () ∧
      ∃ compiler, Compiler.ofLayout layout = .ok compiler ∧ compiler.layout = layout) ∧
    (∀ stdin command error,
      (Application.perform files stdin ⟨command, options⟩).outcome ≠ .error (.layout error)) ∧
    (∀ path, options.config = some path →
      (∀ files' : Files, files path = files' path → load options files = load options files') ∧
      ∀ tree tree', Files.SameButFor usualFile tree tree' →
        ¬ Files.EndsAt tree path [usualFile] → ¬ Files.EndsAt tree' path [usualFile] →
        load options (.ofTree tree) = load options (.ofTree tree')) ∧
    ∀ e, (load options files).outcome = .error e ↔ Fails options files e := by
  refine ⟨fun layout h => ?_, fun stdin command => Application.perform_ne_layout files stdin _,
    fun path hconfig => ⟨fun files' hread => ?_, fun tree tree' => load_of_sameButFor hconfig⟩,
    fun e => load_eq_error_iff⟩
  · obtain ⟨s, hsection, hlayered, hcheck⟩ := load_eq_ok_iff.mp h
    exact ⟨⟨s, hsection, hlayered, fun path text => hsection.saidIn⟩, hcheck, _,
      Compiler.ofLayout_of_check hcheck, rfl⟩
  · refine load_congr hconfig ?_ fun _ => ?_
    · simp only [Files.has, hread]
    · simp only [Files.text, hread]

/-- A settings file with a `null` in its section, and with a note that
no reader for values would take: a number that is out of range and half
of a surrogate pair. -/
def ownSettings : String :=
  "\x7b\"filter\": \x7b\"backend\": \"duckdb\", \"metadata_column\": null, \"note\": [1e999, \"\\ud800\"]\x7d\x7d"

/-- What the section of that file is made of. -/
def ownEntries : Tree.Entries :=
  [(some "backend", .string (some "duckdb")), (some "metadata_column", .null),
    (some "note", .array [.numeral "1e999".toList, .string none])]

/-- The file is spelled correctly, with its note. -/
theorem isDocument_ownSettings :
    IsDocument (.object [(some "filter", .object ownEntries)]) ownSettings := by
  have name : ∀ s : String, s.toList.all isPlain = true → Characters s.toList (s.toList.map .char) :=
    fun s => .of_plain
  have hnone := blanks_nil
  have hspace : Blanks [' '] := by simp [Blanks]
  have hwhole : Whole ['1'] := .digits rfl (by decide) (by simp [Digits])
  have hexponent : Exponent ['e', '9', '9', '9'] :=
    .digits (.inl rfl) (.inl rfl) rfl (by simp [Digits])
  have hnumeral : Numeral "1e999".toList := .mk (.inl rfl) hwhole .none hexponent
  have hhex : ('d', 13) ∈ hexDigits ∧ ('8', 8) ∈ hexDigits ∧ ('0', 0) ∈ hexDigits := by decide
  have hhalf : Characters "\\ud800".toList [.code 0xD800] :=
    .code hhex.1 hhex.2.1 hhex.2.2 hhex.2.2 .nil
  have hnote : Spells (.value (.array [.numeral "1e999".toList, .string none]))
      "[1e999, \"\\ud800\"]".toList :=
    .array (.item (.start hnone) (.numeral hnumeral)
      (.item (.comma hnone hspace) (.string hhalf) (.itemsEnd false hnone)))
  have hnull : Spells (.value .null) null := .word (.head _)
  have hsection : Spells (.entries true ownEntries) _ :=
    .entry (.start hnone) (name "backend" rfl) hnone hspace (.string (name "duckdb" rfl))
      (.entry (.comma hnone hspace) (name "metadata_column" rfl) hnone hspace hnull
        (.entry (.comma hnone hspace) (name "note" rfl) hnone hspace hnote
          (.entriesEnd false hnone)))
  have hfile : Spells (.value (.object [(some "filter", .object ownEntries)])) _ :=
    .object (.entry (.start hnone) (name "filter" rfl) hnone hspace (.object hsection)
      (.entriesEnd false hnone))
  exact .mk hnone hfile hnone (by simp [ownSettings, null])

/-- A directory with that file and none of the usual name. -/
def ownTree : Files.Tree :=
  [(["own", "settings.json"], .file (.text ownSettings))]

/-- A user who names that file and asks for a dedicated column. -/
def ownOptions : Options :=
  { config := some "own/settings.json", specificColumns := some ["size"] }

/-- The layout for this user. -/
theorem load_ownOptions :
    (load ownOptions (.ofTree ownTree)).outcome = .ok ⟨.duckdb, "VEC_META", ["size"]⟩ := by
  obtain ⟨layout, hload, rfl⟩ : ∃ layout, (load ownOptions (.ofTree ownTree)).outcome = .ok layout ∧
      layout = ⟨.duckdb, "VEC_META", ["size"]⟩ :=
    exists_of_toOption_map (by decide +kernel)
  exact hload

/-- Nothing of the note is in the section, and the usual file could not
even be read. -/
theorem load_is_layered_own :
    (∃ s : Section, s.SaidIn (.object [(some "filter", .object ownEntries)]) ∧
      Layered ownOptions s ⟨.duckdb, "VEC_META", ["size"]⟩) ∧
    (load ownOptions (.ofTree ownTree)).outcome = .ok ⟨.duckdb, "VEC_META", ["size"]⟩ ∧
    (∃ compiler, Compiler.ofLayout ⟨.duckdb, "VEC_META", ["size"]⟩ = .ok compiler ∧
      compiler.layout = ⟨.duckdb, "VEC_META", ["size"]⟩) ∧
    load ownOptions (.ofTree ownTree) =
      load ownOptions (.ofTree (ownTree ++ [([usualFile], .file (.text "["))])) := by
  have h := load_is_layered ownOptions (.ofTree ownTree)
  obtain ⟨s, -, hlayered, hsaid⟩ := (h.1 _ load_ownOptions).1
  refine ⟨⟨s, (hsaid _ _ rfl rfl).2.1 _ isDocument_ownSettings, hlayered⟩, load_ownOptions,
    (h.1 _ load_ownOptions).2.2, ?_⟩
  have hends : Files.EndsAt ownTree "own/settings.json" ["own", "settings.json"] := rfl
  have hends' : Files.EndsAt (ownTree ++ [([usualFile], .file (.text "["))]) "own/settings.json"
      ["own", "settings.json"] := rfl
  exact (h.2.2.1 _ rfl).2 _ _ (Files.sameButFor_append rfl _) (hends.ne (by decide))
    (hends'.ne (by decide))

end Settings

end FilterSql
