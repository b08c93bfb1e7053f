import Calculator.Proofs.Command.File

/-! # What a session at the prompt prints

A session answers its lines one after the other, each as if it were given alone, with a prompt in
front of the first answer and behind every one. It ends with the input, or at the first line that
encodes no text, and what was printed before stays printed (`run_prompt`). A line that fails leaves
the exit code as it is.

Reports that follow each other add up (`andThen_assoc`), so what the rest of an input gives does not
depend on what was reported before (`ofRest_eq`). The induction is over the lines that encode texts
(`ofRest_texts`); a line feed at the end of the first of two inputs keeps their lines apart, and the
session on both is one after the other. -/

namespace Calculator.Command

/-- The encoding of a text. -/
def encode (text : String) : List UInt8 := text.toUTF8.data.toList

theorem decode?_encode (text : String) : decode? (encode text) = some text :=
  decode?_eq_some_iff.2 rfl

namespace Report

variable {filter : Log.Filter}

/-! ### One report after another -/

theorem andThen_assoc (first second third : Report) :
    (first.andThen second).andThen third = first.andThen (second.andThen third) := by
  simp [andThen, Nat.max_assoc, String.append_assoc, Option.or_assoc]

@[simp] theorem empty_andThen (report : Report) : andThen {} report = report := by
  simp [andThen]

/-! ### The answers to the lines -/

/-- The answers to lines that encode these texts, each with the prompt for the next. -/
def ofAnswers (filter : Log.Filter) (texts : List String) : Report where
  output := String.join (texts.map fun text => (ofSource filter ⟨inputName, text⟩).output ++ prompt)
  log := texts.flatMap fun text => (ofSource filter ⟨inputName, text⟩).log

theorem ofAnswers_cons (text : String) (texts : List String) :
    ofAnswers filter (text :: texts) =
      (ofLine filter (encode text)).andThen (ofAnswers filter texts) := by
  simp [ofAnswers, ofLine, decode?_encode, andThen, ofSource]

variable (filter) in
theorem failure_ofLine (text : String) : (ofLine filter (encode text)).failure = none := by
  simp [ofLine, decode?_encode, andThen, ofSource]

theorem ofRest_eq (lines : List (List UInt8)) {sofar : Report} (h : sofar.failure = none) :
    ofRest filter sofar lines = sofar.andThen (ofRest filter {} lines) := by
  induction lines generalizing sofar with
  | nil => simp [ofRest]
  | cons line rest ih =>
    have hfailure :
        (sofar.andThen (ofLine filter line)).failure = (ofLine filter line).failure := by
      rw [andThen, h, Option.none_or]
    simp only [ofRest, hfailure, empty_andThen]
    split
    · rfl
    · next hnone =>
      have hline : (ofLine filter line).failure = none := by simpa using hnone
      rw [ih (hfailure.trans hline), ih hline, andThen_assoc]

/-- **The lines that encode texts** are answered, and the session goes on. -/
theorem ofRest_texts (texts : List String) (rest : List (List UInt8)) :
    ofRest filter {} (texts.map encode ++ rest) =
      (ofAnswers filter texts).andThen (ofRest filter {} rest) := by
  induction texts with
  | nil => exact (empty_andThen _).symm
  | cons text texts ih =>
    have hline := failure_ofLine filter text
    rw [List.map_cons, List.cons_append, ofRest]
    simp only [empty_andThen, hline, Option.isSome_none, Bool.false_eq_true, if_false]
    rw [ofRest_eq _ hline, ih, ofAnswers_cons, andThen_assoc]

theorem ofRest_of_invalid {line : List UInt8} (h : ∀ text : String, encode text ≠ line)
    (rest : List (List UInt8)) :
    ofRest filter {} (line :: rest) = giveUp "stream did not contain valid UTF-8" := by
  have hnone : decode? line = none := decode?_eq_none_iff.2 h
  simp [ofRest, ofLine, hnone, giveUp]

/-! ### Sessions -/

section Session

variable {input : List UInt8} {texts : List String}

theorem ofInput_eq {split : List (List UInt8)} (h : Text.Splits 10 13 input split) :
    ofInput filter input = andThen { output := prompt } (ofRest filter {} split) := by
  rw [ofInput, Text.byteLines, ← h.eq_lines (by decide), ofRest_eq split rfl]

theorem ofInput_of_texts {rest : List (List UInt8)}
    (h : Text.Splits 10 13 input (texts.map encode ++ rest)) :
    ofInput filter input =
      andThen { output := prompt ++ (ofAnswers filter texts).output
                log := (ofAnswers filter texts).log } (ofRest filter {} rest) := by
  rw [ofInput_eq h, ofRest_texts, ← andThen_assoc]
  simp [andThen, ofAnswers]

theorem ofInput_of_valid (h : Text.Splits 10 13 input (texts.map encode)) :
    ofInput filter input =
      { output := prompt ++ (ofAnswers filter texts).output ++ "\n"
        log := (ofAnswers filter texts).log } := by
  rw [← List.append_nil (texts.map encode)] at h
  rw [ofInput_of_texts h]
  simp [ofRest, andThen]

theorem ofInput_of_invalid {bad : List UInt8} {later : List (List UInt8)}
    (h : Text.Splits 10 13 input (texts.map encode ++ bad :: later))
    (hbad : ∀ text : String, encode text ≠ bad) :
    ofInput filter input =
      { code := 1
        output := prompt ++ (ofAnswers filter texts).output
        log := (ofAnswers filter texts).log
        failure := some "stream did not contain valid UTF-8" } := by
  rw [ofInput_of_texts h, ofRest_of_invalid hbad]
  simp [giveUp, andThen]

end Session

end Report

/-- **A session at the prompt** prints, for each line in order, what the evaluation of that line
alone prints and then a prompt, and ends with a line feed and exit code zero, whichever lines fail;
at the first line that encodes no text it breaks off instead. The session on two inputs of which the
first ends with a line feed is the session on the first, its last line feed left out, and then the
session on the second, its first prompt left out. -/
theorem run_prompt (line : List String) (files : String → Option (List UInt8)) (a : Arguments)
    (filter : Log.Filter) (hparse : Arguments.parse line = .ok a) (hcontents : a.contents = none)
    (hfilter : Log.Filter.parse (a.logLevel.getD defaultFilter) = .ok filter) :
    let session := run line files
    let alone := fun text : String => Report.ofSource filter ⟨"<stdin>", text⟩
    let answers := fun texts : List String =>
      String.join (texts.map fun text => (alone text).output ++ "calc > ")
    let logged := fun texts : List String => texts.flatMap fun text => (alone text).log
    (∀ input : List UInt8, ∃ split : List (List UInt8), Text.Splits 10 13 input split ∧
      (∀ other, Text.Splits 10 13 input other → other = split) ∧
      (∀ texts : List String, split = texts.map encode →
        (session input).output = "calc > " ++ answers texts ++ "\n" ∧
        (session input).log = logged texts ∧
        (session input).code = 0 ∧ (session input).failure = none) ∧
      ∀ (texts : List String) (bad : List UInt8) (later : List (List UInt8)),
        split = texts.map encode ++ bad :: later → (∀ text : String, encode text ≠ bad) →
        (session input).output = "calc > " ++ answers texts ∧
        (session input).log = logged texts ∧
        (session input).code = 1 ∧
        (session input).failure = some "stream did not contain valid UTF-8") ∧
    (∀ (front : List UInt8) (texts : List String) (more : List UInt8),
      Text.Splits 10 13 (front ++ [10]) (texts.map encode) →
      ∃ first rest : String, (session (front ++ [10])).output = first ++ "\n" ∧
        (session more).output = "calc > " ++ rest ∧
        (session (front ++ [10] ++ more)).output = first ++ rest ∧
        (session (front ++ [10] ++ more)).log =
          (session (front ++ [10])).log ++ (session more).log ∧
        (session (front ++ [10] ++ more)).code = (session more).code ∧
        (session (front ++ [10] ++ more)).failure = (session more).failure) ∧
    ∀ text : String,
      (∀ v, (⟨"<stdin>", text⟩ : Source).evaluate.result = .ok v →
        (alone text).output = v.text ++ "\n") ∧
      ∀ e, (⟨"<stdin>", text⟩ : Source).evaluate.result = .error e →
        (alone text).output =
          e.kind.title ++ ": " ++ e.details ++ "\nFile <stdin>, line 1\n" := by
  intro session alone answers logged
  have hsession : session = Report.ofInput filter := by
    funext input
    have hplan : plan line = .ok (filter, .prompt) := by
      simp [plan, hparse, hfilter, Arguments.task, hcontents]
    simp only [session, run, hplan]
  have hne : (13 : UInt8) ≠ 10 := by decide
  rw [hsession]
  refine ⟨fun input => ⟨_, Text.splits_lines hne input, fun other => Text.Splits.eq_lines hne,
    ?_, ?_⟩, ?_, ?_⟩
  · intro texts htexts
    rw [Report.ofInput_of_valid (htexts ▸ Text.splits_lines hne input)]
    exact ⟨rfl, rfl, rfl, rfl⟩
  · intro texts bad later hsplit hbad
    rw [Report.ofInput_of_invalid (hsplit ▸ Text.splits_lines hne input) hbad]
    exact ⟨rfl, rfl, rfl, rfl⟩
  · intro front texts more htexts
    have hboth : Text.Splits 10 13 (front ++ [10] ++ more)
        (texts.map encode ++ Text.lines 10 13 more) := by
      rw [Text.splits_iff hne] at htexts ⊢
      rw [htexts, List.append_assoc]
      exact (Text.linesFrom_append_lines [] front more).symm
    rw [Report.ofInput_of_valid htexts, Report.ofInput_of_texts hboth,
      Report.ofInput_eq (Text.splits_lines hne more)]
    refine ⟨_, _, rfl, rfl, rfl, ?_, ?_, ?_⟩ <;> simp [Report.andThen]
  · refine fun text => ⟨fun v hv => Report.output_of_value hv, fun e he => ?_⟩
    have hframe : "\nFile <stdin>, line 1\n" = "\nFile " ++ "<stdin>" ++ ", line 1\n" := by decide
    rw [Report.output_of_error he, hframe]
    simp only [String.append_assoc]

/-- Two of three lines fail, one of them without a character, and the session goes on; the byte that
encodes nothing breaks it off before the last line. -/
theorem run_prompt_sums :
    let valid : List UInt8 := encode "1+1\r\n\n2/0\n"
    let broken : List UInt8 := valid ++ [255, 10] ++ encode "3"
    let session := run [] (fun _ => none)
    let filter : Log.Filter := [⟨[], none, none, some .warn⟩]
    Arguments.parse [] = .ok {} ∧ ({} : Arguments).contents = none ∧
    Log.Filter.parse (({} : Arguments).logLevel.getD defaultFilter) = .ok filter ∧
    Text.Splits 10 13 broken (["1+1", "", "2/0"].map encode ++ [255] :: ["3"].map encode) ∧
    (∀ text : String, encode text ≠ [255]) ∧
    (session valid).code = 0 ∧ (session broken).code = 1 ∧
    (session valid).output = (session broken).output ++ "\n" ∧
    (session broken).output =
      "calc > 2\ncalc > " ++
        "Unexpected End Of Input: Expected number or '(', found end of input\n" ++
        "File <stdin>, line 1\ncalc > Division By Zero: 2 / 0\nFile <stdin>, line 1\ncalc > " := by
  intro valid broken session filter
  have hparse : Arguments.parse [] = .ok {} := by decide +kernel
  have hfilter : Log.Filter.parse (({} : Arguments).logLevel.getD defaultFilter) = .ok filter := by
    decide +kernel
  have hvalid : Text.Splits 10 13 valid (["1+1", "", "2/0"].map encode) :=
    (Text.splits_iff (by decide)).2 (by decide +kernel)
  have hbroken : Text.Splits 10 13 broken
      (["1+1", "", "2/0"].map encode ++ [255] :: ["3"].map encode) :=
    (Text.splits_iff (by decide)).2 (by decide +kernel)
  have hbad : ∀ text : String, encode text ≠ [255] := decode?_eq_none_iff.1 (by decide +kernel)
  obtain ⟨hinput, -, -⟩ := run_prompt [] (fun _ => none) {} filter hparse rfl hfilter
  obtain ⟨split, -, hunique, hall, -⟩ := hinput valid
  obtain ⟨hvalidOutput, -, hvalidCode, -⟩ := hall _ (hunique _ hvalid).symm
  obtain ⟨split, -, hunique, -, hbreak⟩ := hinput broken
  obtain ⟨houtput, -, hcode, -⟩ := hbreak _ _ _ (hunique _ hbroken).symm hbad
  refine ⟨hparse, rfl, hfilter, hbroken, hbad, hvalidCode, hcode, ?_, ?_⟩
  · rw [hvalidOutput, houtput]
  · exact houtput.trans (by decide +kernel)

end Calculator.Command
