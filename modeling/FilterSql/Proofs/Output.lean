import FilterSql.Proofs.Containment
import FilterSql.Proofs.Json.RoundTrip
import FilterSql.Proofs.Loading

/-!
# `FilterSql.Proofs.Output`: printed clauses can be read again

A clause that is printed as JSON is one document, and reading it gives
back the text and the parameters as they were. Both hold whatever was
put into columns and literals, so a script can rely on what it reads:
for every placeholder of the text it finds a parameter.

* `Json.read_pretty`: a document of its own.
* `Compiler.placeholders_of_buildText`: the placeholders of a clause.
* `Application.FilterGiven`: where the filter comes from.
* `Application.perform_compile`, `Application.run_of_perform`: what a run
  prints.
-/

set_option autoImplicit false

namespace FilterSql

/-! ### Documents -/

/-- A value that is printed on lines of its own is read as it was. -/
theorem Json.read_pretty {v : Json} (h : Textual maxNesting v) :
    Json.read (v.pretty ++ "\n") = .ok v := by
  rw [Json.read_eq_ok_iff, String.toList_append, pretty, (readsBack_of_textual h 0).value]
  exact ⟨_, rfl, rfl⟩

/-- A clause is an object with a string and a list of strings. -/
theorem WhereClause.textual_toJson (clause : WhereClause) (levels : Nat) :
    Json.Textual (levels + 2) clause.toJson := by
  have hdistinct : ["sql", "params"].Nodup := by decide
  refine .object hdistinct ?_
  rw [List.forall_mem_cons, List.forall_mem_singleton]
  refine ⟨.string _ _, .array ?_⟩
  intro v hv
  obtain ⟨param, -, rfl⟩ := List.mem_map.mp hv
  exact .string levels param

/-! ### Clauses -/

/-- A clause has a parameter for every placeholder. -/
theorem Compiler.placeholders_of_buildText (compiler : Compiler) {text : String}
    {clause : WhereClause} (h : (compiler.buildText text).outcome = .ok clause) :
    Sql.placeholders clause.sql = clause.params.length := by
  rw [buildText, Traced.outcome_bind, except_bind_eq_ok_iff] at h
  obtain ⟨filter, -, hbuild⟩ := h
  rcases compiler.build_cases hbuild with rfl | ⟨t, fragment, -, hcompile, rfl⟩
  · rfl
  · have hwhere : Sql.placeholders "WHERE " = 0 := rfl
    show Sql.placeholders ("WHERE " ++ fragment.sql) = fragment.params.length
    rw [Sql.placeholders_append, hwhere, Nat.zero_add, compiler.placeholders_of_compile hcompile]

namespace Application

open CommandLine (Environment Format Invocation)

/-! ### Runs -/

/-- The filter that a command is about: the argument if there is one,
else the text of the file that is named, else what comes in. -/
inductive FilterGiven (files : Files) (stdin : String) :
    (filter file : Option String) → (text : String) → Prop where
  | argument (text : String) (file : Option String) : FilterGiven files stdin (some text) file text
  | file {path text : String} (h : files.text path = .ok text) :
    FilterGiven files stdin none (some path) text
  | input : FilterGiven files stdin none none stdin

/-- The three sources are asked in this order. -/
theorem filterText_eq_ok_iff {files : Files} {stdin text : String} {filter file : Option String} :
    filterText files stdin filter file = .ok text ↔ FilterGiven files stdin filter file text := by
  constructor
  · intro h
    unfold filterText at h
    split at h
    · cases h
      exact .argument text file
    · exact .file (except_mapError_eq_ok_iff.mp h)
    · cases h
      exact .input
  · rintro (_ | h)
    · rfl
    · exact except_mapError_eq_ok_iff.mpr h
    · rfl

/-- Compiling prints the clause, once settings, filter and clause have
been found. -/
theorem perform_compile {files : Files} {stdin : String} {invocation : Invocation}
    {filter file : Option String} {format : Format} {compiler : Compiler} {text : String}
    {clause : WhereClause} (hcommand : invocation.command = .compile filter file format)
    (hload : (Settings.load invocation.options files).outcome = .ok compiler.layout)
    (htext : FilterGiven files stdin filter file text)
    (hbuild : (compiler.buildText text).outcome = .ok clause) :
    (perform files stdin invocation).outcome = .ok (printed format clause) := by
  have hcompiler : Compiler.ofLayout compiler.layout = .ok compiler :=
    Compiler.ofLayout_of_check compiler.checked
  unfold perform
  rw [hcommand]
  simp only [Traced.outcome_bind, failingWith, hload, except_mapError_ok, except_ok_bind, hcompiler,
    Traced.outcome_ofExcept, filterText_eq_ok_iff.mpr htext, hbuild, Traced.outcome_pure]

/-- A command that is carried out prints its result and nothing else. -/
theorem run_of_perform {args : List String} {env : Environment} {files : Files} {stdin : String}
    {invocation : Invocation} {output : String}
    (hparse : CommandLine.parse (fullEnvironment env files) args = .ok invocation)
    (hperform : (perform files stdin (tidied invocation)).outcome = .ok output) :
    (run args env files stdin).code = 0 ∧ (run args env files stdin).error = none ∧
      (run args env files stdin).stdout = output := by
  simp [run, hparse, hperform]

/-- Nothing is lost in a clause that is printed as JSON. The output is
one document. It holds the text and the parameters of the clause, in
order and character by character, and nothing else, and the text has as
many placeholders as there are parameters. -/
theorem json_output_is_lossless (args : List String) (env : Environment) (files : Files)
    (stdin : String) (invocation : Invocation) (filter file : Option String)
    (compiler : Compiler) (text : String) (clause : WhereClause)
    (hparse : CommandLine.parse (fullEnvironment env files) args = .ok invocation)
    (hcommand : invocation.command = .compile filter file .json)
    (hload : (Settings.load (tidied invocation).options files).outcome = .ok compiler.layout)
    (htext : FilterGiven files stdin filter file text)
    (hbuild : (compiler.buildText text).outcome = .ok clause) :
    (run args env files stdin).code = 0 ∧ (run args env files stdin).error = none ∧
      Json.read (run args env files stdin).stdout
        = .ok (.object [("sql", .string clause.sql), ("params", .ofStrings clause.params)]) ∧
      Sql.placeholders clause.sql = clause.params.length := by
  have hperform : (perform files stdin (tidied invocation)).outcome
      = .ok (printed .json clause) := perform_compile hcommand hload htext hbuild
  obtain ⟨hcode, herror, hstdout⟩ := run_of_perform hparse hperform
  refine ⟨hcode, herror, ?_, compiler.placeholders_of_buildText hbuild⟩
  rw [hstdout]
  exact Json.read_pretty (clause.textual_toJson 125)

/-- A command line with a column whose name has to be escaped. -/
def awkwardArgs : List String :=
  ["--metadata-column", "m\"\\é", "compile", "--format", "json"]

/-- What this command line asks for. -/
def awkwardInvocation : Invocation :=
  ⟨.compile none none .json, { metadataColumn := some "m\"\\é" }⟩

/-- The compiler for this column. -/
def awkwardColumn : Compiler where
  layout := { metadataColumn := "m\"\\é" }
  checked := rfl

/-- A filter for a text with a control character, a line feed, a quote
and a question mark in it. -/
def awkwardInput : String :=
  "\x7b\"k\":\"\\u0001\\n\\\"?é\"\x7d"

/-- The column and the text come back as they were. The question mark in
the text is no placeholder, since it is not part of the clause. -/
theorem json_output_is_lossless_awkward :
    Json.read (run awkwardArgs [] (.ofTree []) awkwardInput).stdout
      = .ok (.object
          [("sql", .string "WHERE JSON_VALUE(\"m\"\"\\é\", '$.k') = ?"),
           ("params", .ofStrings ["\x01\n\"?é"])]) ∧
    Sql.placeholders "WHERE JSON_VALUE(\"m\"\"\\é\", '$.k') = ?" = 1 := by
  have hparse : CommandLine.parse (fullEnvironment [] (.ofTree [])) awkwardArgs
      = .ok awkwardInvocation := rfl
  have hload : (Settings.load (tidied awkwardInvocation).options (.ofTree [])).outcome
      = .ok awkwardColumn.layout := rfl
  obtain ⟨clause, hbuild, hclause⟩ : ∃ clause,
      (awkwardColumn.buildText awkwardInput).outcome = .ok clause ∧
        clause = ⟨"WHERE JSON_VALUE(\"m\"\"\\é\", '$.k') = ?", ["\x01\n\"?é"]⟩ :=
    exists_of_toOption_map (by decide +kernel)
  obtain ⟨-, -, hread, hcount⟩ := json_output_is_lossless awkwardArgs [] (.ofTree []) awkwardInput
    awkwardInvocation none none awkwardColumn awkwardInput clause hparse rfl hload .input hbuild
  rw [hclause] at hread hcount
  exact ⟨hread, hcount⟩

end Application

end FilterSql
