import Calculator.Command.Task
import Calculator.Proofs.Evaluation.Blame
import Calculator.Proofs.Text.Lines

/-! # What a run on a file does

A run on a file is the evaluation of its lines one after the other, as if each of them were given
alone under the path of the file, or it is nothing at all if the file does not hold a text
(`run_file`). The induction is over the lines, behind whatever has been reported so far: a line adds
its output and its log, and once a line has failed the run has.

* `decode?_eq_some_iff`: which bytes hold which text.
* `Report.output_of_value`, `Report.output_of_error`: what is printed for one line.
* `Report.ofLines_eq`: the report after some lines. -/

namespace Calculator

namespace Command

/-! ### The bytes of a text -/

theorem decode?_eq_some_iff {bytes : List UInt8} {text : String} :
    decode? bytes = some text ↔ text.toUTF8.data.toList = bytes := by
  have hbytes : ∀ array : ByteArray, array.data.toList.toByteArray = array := fun array =>
    ByteArray.ext (by simp)
  unfold decode? String.fromUTF8?
  constructor
  · intro h
    split at h
    · cases h
      change bytes.toByteArray.data.toList = bytes
      simp
    · cases h
  · rintro rfl
    rw [hbytes, String.toUTF8_eq_toByteArray, dif_pos text.isValidUTF8]
    rfl

theorem decode?_eq_none_iff {bytes : List UInt8} :
    decode? bytes = none ↔ ∀ text : String, text.toUTF8.data.toList ≠ bytes := by
  simp only [Option.eq_none_iff_forall_ne_some, ne_eq, decode?_eq_some_iff]

namespace Report

variable {filter : Log.Filter} {path : String}

/-! ### What the evaluation of one line prints -/

theorem output_of_value {source : Source} {v : Number} (h : source.evaluate.result = .ok v) :
    (ofSource filter source).output = v.text ++ "\n" := by
  simp only [ofSource, shown, h]

theorem output_of_error {source : Source} {e : Error} (h : source.evaluate.result = .error e) :
    (ofSource filter source).output =
      e.kind.title ++ ": " ++ e.details ++ "\nFile " ++ source.name ++ ", line 1\n" := by
  simp only [ofSource, shown, h, message_of_evaluate h]
  exact String.append_assoc

/-! ### One line after another -/

/-- **The run on some lines** adds what the evaluation of each of them gives to what was reported
before. -/
theorem ofLines_eq (sofar : Report) (lines : List String) :
    let sources := lines.map fun line => (⟨path, line⟩ : Source)
    ofLines filter path sofar lines =
      { code := max sofar.code (if sources.all (·.evaluate.result.isOk) then 0 else 1)
        output := sofar.output ++
          String.join (sources.map fun source => (ofSource filter source).output)
        log := sofar.log ++ sources.flatMap fun source => (ofSource filter source).log
        failure := sofar.failure } := by
  intro sources
  induction lines generalizing sofar with
  | nil => simp [ofLines, sources]
  | cons line lines ih =>
    have hstep : ofLines filter path sofar (line :: lines) =
        ofLines filter path (sofar.andThen (ofSource filter ⟨path, line⟩)) lines := rfl
    rw [hstep, ih]
    have hcode : ∀ first rest : Bool, max (max sofar.code (if first then 0 else 1))
        (if rest then 0 else 1) = max sofar.code (if first && rest then 0 else 1) := by
      rintro (_ | _) (_ | _) <;> simp
    simp only [sources, andThen, List.map_cons, List.flatMap_cons, List.all_cons, String.join_cons,
      String.append_assoc, List.append_assoc]
    rw [← hcode]
    simp [ofSource]

/-- The exit code of a run on the lines of a text tells whether one of them failed. -/
theorem code_eq_iff (sources : List Source) :
    let code := max 0 (if sources.all (·.evaluate.result.isOk) then 0 else 1)
    (code = 1 ↔ ∃ source ∈ sources, ∃ e, source.evaluate.result = .error e) ∧
      (code = 0 ↔ ∀ source ∈ sources, ∃ v, source.evaluate.result = .ok v) := by
  have hok : ∀ result : Except Error Number, result.isOk = true ↔ ∃ v, result = .ok v := by
    rintro (e | v) <;> simp [Except.isOk, Except.toBool]
  have herror : ∀ result : Except Error Number,
      (∃ e, result = .error e) ↔ ¬ ∃ v, result = .ok v := by
    rintro (e | v) <;> simp
  have hall : (∀ source ∈ sources, ∃ v, source.evaluate.result = .ok v) ↔
      sources.all (·.evaluate.result.isOk) = true := by
    rw [List.all_eq_true]
    exact forall₂_congr fun _ _ => (hok _).symm
  have hsome : (∃ source ∈ sources, ∃ e, source.evaluate.result = .error e) ↔
      ¬ sources.all (·.evaluate.result.isOk) = true := by
    rw [← hall]
    simp only [herror, not_forall, exists_prop]
  rw [hall, hsome]
  cases sources.all (·.evaluate.result.isOk) <;> simp

theorem run_of_plan {line : List String} {filter : Log.Filter} {path : String}
    (hplan : plan line = .ok (filter, .file path)) (files : String → Option (List UInt8))
    (input : List UInt8) : run line files input = .ofFile filter path (files path) := by
  rw [run, hplan]

end Report

/-- **A run on a file** gives up on the whole file if its bytes are not those of a text, and else
prints for each of its lines that is not blank, in order, what the evaluation of that line alone
prints. A line that fails is shown and stops no other; the run fails if some line does. -/
theorem run_file (line : List String) (files : String → Option (List UInt8)) (input : List UInt8)
    (filter : Log.Filter) (path : String) (hplan : plan line = .ok (filter, .file path)) :
    let report := run line files input
    ((∀ text : String, files path ≠ some text.toUTF8.data.toList) →
      report.output = "" ∧ report.log = [] ∧ report.code = 1 ∧
        report.failure = some ("failed to read the input file '" ++ path ++ "'")) ∧
    ∀ text : String, files path = some text.toUTF8.data.toList →
      ∃ split : List (List Char), Text.Splits '\n' '\r' text.toList split ∧
        (∀ other, Text.Splits '\n' '\r' text.toList other → other = split) ∧
        let sources := (split.filter fun line => line.any fun c => !Text.isWhiteSpace c).map
          fun line => (⟨path, String.ofList line⟩ : Source)
        let alone := fun source => Report.ofSource filter source
        report.output = String.join (sources.map fun source => (alone source).output) ∧
        report.log = sources.flatMap (fun source => (alone source).log) ∧
        report.failure = none ∧
        (report.code = 1 ↔ ∃ source ∈ sources, ∃ e, source.evaluate.result = .error e) ∧
        (report.code = 0 ↔ ∀ source ∈ sources, ∃ v, source.evaluate.result = .ok v) ∧
        ∀ source ∈ sources,
          (∀ v, source.evaluate.result = .ok v → (alone source).output = v.text ++ "\n") ∧
          ∀ e, source.evaluate.result = .error e → (alone source).output =
            e.kind.title ++ ": " ++ e.details ++ "\nFile " ++ path ++ ", line 1\n" := by
  intro report
  have hreport : report = .ofFile filter path (files path) := Report.run_of_plan hplan files input
  rw [hreport]
  constructor
  · intro hnone
    have hdecode : (files path).bind decode? = none := by
      refine Option.bind_eq_none_iff.2 fun bytes hbytes => decode?_eq_none_iff.2 ?_
      rintro text rfl
      exact hnone text hbytes
    rw [Report.ofFile, hdecode]
    exact ⟨rfl, rfl, rfl, rfl⟩
  · intro text htext
    have hdecode : (files path).bind decode? = some text := by
      rw [htext, Option.bind_some, decode?_eq_some_iff]
    have hne : '\r' ≠ '\n' := by decide
    refine ⟨_, Text.splits_lines hne text.toList, fun other => Text.Splits.eq_lines hne, ?_⟩
    intro sources alone
    have hlines : Report.ofFile filter path (files path) =
        .ofLines filter path {} (expressions text) := by
      rw [Report.ofFile, hdecode]
    have hsources : sources = (expressions text).map fun line => ⟨path, line⟩ := by
      have hblank : (fun line : List Char => line.any fun c => !Text.isWhiteSpace c) =
          fun line => !Text.isBlank line := by
        funext line
        simp [Text.isBlank, List.all_eq_not_any_not]
      simp only [sources, hblank, expressions, List.map_map]
      rfl
    obtain ⟨hfails, hsucceeds⟩ := Report.code_eq_iff sources
    rw [hlines, Report.ofLines_eq, ← hsources]
    refine ⟨String.empty_append, List.nil_append _, rfl, hfails, hsucceeds, ?_⟩
    intro source hsource
    have hname : source.name = path := by
      obtain ⟨line, -, rfl⟩ := List.mem_map.1 hsource
      rfl
    refine ⟨fun v hv => Report.output_of_value hv, fun e he => ?_⟩
    rw [← hname]
    exact Report.output_of_error he

/-- Of four lines one is blank, and the last keeps its carriage return, which is no blank character;
a byte that encodes nothing undoes the line before it too. -/
theorem run_file_sums :
    let text := "1+1\r\n \n2/0\n3\r"
    let bytes : List UInt8 := text.toUTF8.data.toList
    let broken : List UInt8 := [49, 10, 255]
    let files := fun path => if path = "sums" then some bytes else some broken
    let filter : Log.Filter := [⟨[], none, none, some .warn⟩]
    plan ["-f", "sums"] = .ok (filter, .file "sums") ∧
    plan ["-f", "other"] = .ok (filter, .file "other") ∧
    files "sums" = some bytes ∧ (∀ text : String, files "other" ≠ some text.toUTF8.data.toList) ∧
    (run ["-f", "other"] files []).output = "" ∧ (run ["-f", "other"] files []).code = 1 ∧
    (run ["-f", "sums"] files []).code = 1 ∧
    (run ["-f", "sums"] files []).output =
      "2\nDivision By Zero: 2 / 0\nFile sums, line 1\n" ++
        "Illegal Character: '\\r'\nFile sums, line 1\n" := by
  intro text bytes broken files filter
  have hsums : plan ["-f", "sums"] = .ok (filter, .file "sums") := by decide +kernel
  have hother : plan ["-f", "other"] = .ok (filter, .file "other") := by decide +kernel
  have hbroken : ∀ text : String, files "other" ≠ some text.toUTF8.data.toList := fun text h =>
    decode?_eq_none_iff.1 (show decode? broken = none by decide +kernel) text
      (Option.some.inj h).symm
  obtain ⟨houtput, -, hcode, -⟩ := (run_file _ files [] filter "other" hother).1 hbroken
  refine ⟨hsums, hother, rfl, hbroken, houtput, hcode, ?_⟩
  obtain ⟨split, -, hunique, houtput, -, -, hcode, -⟩ :=
    (run_file _ files [] filter "sums" hsums).2 text rfl
  have hsplit : Text.Splits '\n' '\r' text.toList
      ["1+1".toList, " ".toList, "2/0".toList, "3\r".toList] :=
    (Text.splits_iff (by decide)).2 (by decide +kernel)
  obtain rfl := hunique _ hsplit
  refine ⟨hcode.2 ⟨⟨"sums", "2/0"⟩, by decide +kernel, ?_⟩, houtput.trans (by decide +kernel)⟩
  exact ⟨⟨.divisionByZero, ⟨1, 0, 1, ⟨"sums", "2/0"⟩⟩, ⟨2, 0, 2, ⟨"sums", "2/0"⟩⟩, "2 / 0"⟩,
    by decide +kernel⟩

end Command

end Calculator
