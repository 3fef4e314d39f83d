import NamedCells.Proofs.InputLines

/-!
# Batches and input

A batch is cut into segments as a whole and stops at the first failure; input is cut into lines, the
lines into segments, and goes on.  Both are compared step by step: a step is a segment with its
outcome and the engine that it leaves.  The steps of an input are those of the whole text, and the
steps of a batch are the same up to and including the first failure.

## Main definitions

* `Session.Step`, `Session.steps`, `Session.stepsUntilFailure` — the steps of a run that goes on and
  of one that stops.
* `CommandLine.inputSteps`, `CommandLine.inputFault?` — the steps of an input, line by line, and why
  it ended early.

## Main results

* `Session.runAll_eq_steps`, `Session.runUntilFailure_eq_steps`, `CommandLine.runInput_eq_steps` —
  the runs of the program go through these steps.
* `CommandLine.inputSteps_eq_steps`, `CommandLine.runInput_of_text` — the steps of an input are
  those of the whole text.
* `CommandLine.batch_agrees_with_input` — **a batch does what the input does, up to the first
  failure.**
-/

namespace NamedCells

namespace Session

/-- A segment that was run. -/
structure Step where
  /-- The segment. -/
  segment : String
  /-- What came of it. -/
  outcome : Outcome
  /-- The engine that is left. -/
  engine : Engine

/-- The steps of a run that goes on after failures. -/
def steps (g : Engine) : List String → List Step
  | [] => []
  | segment :: rest =>
    let (outcome, g) := runSegment g segment
    ⟨segment, outcome, g⟩ :: steps g rest

/-- The steps of a run that stops after a failure. -/
def stepsUntilFailure (g : Engine) : List String → List Step
  | [] => []
  | segment :: rest =>
    let (outcome, g) := runSegment g segment
    ⟨segment, outcome, g⟩ :: if outcome.isFailure then [] else stepsUntilFailure g rest

/-- The engine that is left after some steps. -/
def engineAfter (g : Engine) (done : List Step) : Engine := done.foldl (fun _ s => s.engine) g

@[simp] theorem engineAfter_nil (g : Engine) : engineAfter g [] = g := rfl

@[simp] theorem engineAfter_cons (g : Engine) (s : Step) (done : List Step) :
    engineAfter g (s :: done) = engineAfter s.engine done := rfl

theorem engineAfter_append (g : Engine) (xs ys : List Step) :
    engineAfter g (xs ++ ys) = engineAfter (engineAfter g xs) ys := by
  rw [engineAfter, List.foldl_append]
  rfl

@[simp] theorem steps_nil (g : Engine) : steps g [] = [] := rfl

theorem steps_cons (g : Engine) (segment : String) (rest : List String) :
    steps g (segment :: rest) =
      ⟨segment, (runSegment g segment).1, (runSegment g segment).2⟩ ::
        steps (runSegment g segment).2 rest := rfl

theorem stepsUntilFailure_cons (g : Engine) (segment : String) (rest : List String) :
    stepsUntilFailure g (segment :: rest) =
      ⟨segment, (runSegment g segment).1, (runSegment g segment).2⟩ ::
        if (runSegment g segment).1.isFailure then []
        else stepsUntilFailure (runSegment g segment).2 rest := rfl

/-- Every segment is run, in order. -/
theorem map_segment_steps (g : Engine) (segments : List String) :
    (steps g segments).map Step.segment = segments := by
  induction segments generalizing g with
  | nil => rfl
  | cons segment rest ih => rw [steps_cons, List.map_cons, ih]

theorem steps_append (g : Engine) (xs ys : List String) :
    steps g (xs ++ ys) = steps g xs ++ steps (engineAfter g (steps g xs)) ys := by
  induction xs generalizing g with
  | nil => rfl
  | cons x xs ih => rw [List.cons_append, steps_cons, ih, steps_cons]; rfl

/-! ### The runs go through these steps -/

theorem runAllFrom_eq_steps (done : List Outcome) (g : Engine) (segments : List String) :
    runAllFrom done g segments =
      (done.reverse ++ (steps g segments).map Step.outcome,
        engineAfter g (steps g segments)) := by
  induction segments generalizing done g with
  | nil => simp [runAllFrom]
  | cons segment rest ih =>
    rw [runAllFrom, steps_cons]
    simp [ih]

/-- A run of all segments answers the outcomes of its steps and leaves their engine. -/
theorem runAll_eq_steps (g : Engine) (segments : List String) :
    runAll g segments =
      ((steps g segments).map Step.outcome, engineAfter g (steps g segments)) := by
  rw [runAll, runAllFrom_eq_steps]
  rfl

theorem runUntilFailureFrom_eq_steps (done : List Outcome) (g : Engine)
    (segments : List String) :
    runUntilFailureFrom done g segments =
      (done.reverse ++ (stepsUntilFailure g segments).map Step.outcome,
        engineAfter g (stepsUntilFailure g segments)) := by
  induction segments generalizing done g with
  | nil => simp [runUntilFailureFrom, stepsUntilFailure]
  | cons segment rest ih =>
    rw [runUntilFailureFrom, stepsUntilFailure_cons]
    by_cases failure : (runSegment g segment).1.isFailure = true
    · simp [failure]
    · simp [failure, ih]

/-- A run up to the first failure answers the outcomes of its steps and leaves their engine. -/
theorem runUntilFailure_eq_steps (g : Engine) (segments : List String) :
    runUntilFailure g segments =
      ((stepsUntilFailure g segments).map Step.outcome,
        engineAfter g (stepsUntilFailure g segments)) := by
  rw [runUntilFailure, runUntilFailureFrom_eq_steps]
  rfl

/-! ### The first failure -/

/-- Without a failure both runs take the same steps. -/
theorem stepsUntilFailure_of_success {g : Engine} {segments : List String}
    (h : ∀ s ∈ steps g segments, s.outcome.isFailure = false) :
    stepsUntilFailure g segments = steps g segments := by
  induction segments generalizing g with
  | nil => rfl
  | cons segment rest ih =>
    rw [steps_cons] at h ⊢
    have success := h _ List.mem_cons_self
    rw [stepsUntilFailure_cons, if_neg (by simp [success]),
      ih fun s mem => h s (List.mem_cons_of_mem _ mem)]

/-- A run that stops takes the steps up to and including the first failure. -/
theorem stepsUntilFailure_of_failure {g : Engine} {segments : List String}
    {before after : List Step} {failed : Step}
    (cut : steps g segments = before ++ failed :: after)
    (success : ∀ s ∈ before, s.outcome.isFailure = false)
    (failure : failed.outcome.isFailure = true) :
    stepsUntilFailure g segments = before ++ [failed] := by
  induction segments generalizing g before with
  | nil => simp at cut
  | cons segment rest ih =>
    rw [steps_cons] at cut
    rw [stepsUntilFailure_cons]
    cases before with
    | nil =>
      -- the failed step is this one
      obtain ⟨rfl, -⟩ := List.cons.inj cut
      rw [if_pos failure]
      rfl
    | cons s before =>
      -- this step succeeded, and the run goes on
      obtain ⟨rfl, tail⟩ := List.cons.inj cut
      have first := success _ List.mem_cons_self
      rw [if_neg (by simp [first]),
        ih tail fun s mem => success s (List.mem_cons_of_mem _ mem)]
      rfl

end Session

namespace CommandLine

open Session (Step steps stepsUntilFailure engineAfter)

/-- The steps of an input, line by line, up to a line that is no text. -/
def inputSteps (g : Engine) : List (List UInt8) → List Step
  | [] => []
  | line :: rest =>
    match decodeText line with
    | .ok text =>
      let done := steps g (Script.segments text)
      done ++ inputSteps (engineAfter g done) rest
    | .error _ => []

/-- Why the first line of an input that is no text is none, if there is such a line. -/
def inputFault? : List (List UInt8) → Option ReadFault
  | [] => none
  | line :: rest =>
    match decodeText line with
    | .ok _ => inputFault? rest
    | .error fault => some fault

theorem decodeText_encode (cs : List Char) :
    decodeText (Utf8.encode cs) = .ok (String.ofList cs) := by
  rw [decodeText, Utf8.decode?_encode]

theorem segments_ofList (cs : List Char) :
    Script.segments (String.ofList cs) = (Script.segmentsOf cs).map String.ofList := by
  rw [Script.segments, String.toList_ofList]

theorem inputSteps_encode (g : Engine) (text : List Char) (rest : List (List UInt8)) :
    inputSteps g (Utf8.encode text :: rest) =
      steps g ((Script.segmentsOf text).map String.ofList) ++
        inputSteps (engineAfter g (steps g ((Script.segmentsOf text).map String.ofList))) rest := by
  rw [inputSteps, decodeText_encode]
  simp only [segments_ofList]

/-- The steps of lines that encode a text are those of its segments. -/
theorem EncodesLines.inputSteps_eq {lines : List (List UInt8)} {segments : List (List Char)}
    (h : EncodesLines lines segments) (g : Engine) :
    inputSteps g lines = steps g (segments.map String.ofList) := by
  induction h generalizing g with
  | nil => rfl
  | cons text rest ih =>
    rw [inputSteps_encode, ih, List.map_append, Session.steps_append]

theorem emissions_append (xs ys : List Outcome) :
    emissions (xs ++ ys) = emissions xs ++ emissions ys := List.filterMap_append

/-- Lines that encode a text are all texts. -/
theorem EncodesLines.inputFault?_eq {lines : List (List UInt8)} {segments : List (List Char)}
    (h : EncodesLines lines segments) : inputFault? lines = none := by
  induction h with
  | nil => rfl
  | cons text rest ih => rw [inputFault?, decodeText_encode, ih]

/-- **A run of an input goes through its steps**, up to a line that is no text. -/
theorem runInput_eq_steps (written : List Emission) (g : Engine) (lines : List (List UInt8)) :
    runInput written g lines =
      (written.reverse ++ emissions ((inputSteps g lines).map Step.outcome) ++
          ((inputFault? lines).map inputError).toList,
        if (inputFault? lines).isSome then none
        else some (engineAfter g (inputSteps g lines))) := by
  induction lines generalizing written g with
  | nil => simp [runInput, inputSteps, inputFault?, emissions]
  | cons line rest ih =>
    rw [runInput, runInputLine, inputSteps, inputFault?]
    cases decodeText line with
    | error fault => simp [Except.map, emissions]
    | ok text =>
      simp only [Except.map, Session.runLine, Session.runAll_eq_steps]
      rw [ih, Session.engineAfter_append, List.map_append, emissions_append, List.reverse_append,
        List.reverse_reverse]
      simp only [List.append_assoc]

/-- **The steps of an input are those of the whole text.** -/
theorem inputSteps_eq_steps (g : Engine) (text : String) :
    inputSteps g (inputLines text.toUTF8.data.toList) = steps g (Script.segments text) := by
  rw [Utf8.encode_eq_toUTF8, (encodesLines_inputLines text.toList).inputSteps_eq g,
    Script.segments]

/-- An input that is a text is run to its end. -/
theorem runInput_of_text (g : Engine) (text : String) :
    runInput [] g (inputLines text.toUTF8.data.toList) =
      (emissions ((steps g (Script.segments text)).map Step.outcome),
        some (engineAfter g (steps g (Script.segments text)))) := by
  have texts : inputFault? (inputLines text.toUTF8.data.toList) = none := by
    rw [Utf8.encode_eq_toUTF8]
    exact (encodesLines_inputLines text.toList).inputFault?_eq
  rw [runInput_eq_steps, inputSteps_eq_steps, texts]
  simp

/-! ### Reports -/

/-- Lines written after a text are appended to it. -/
theorem foldl_eq_append_writeLines (lines : List String) (start : String) :
    lines.foldl (fun text line => text ++ line ++ "\n") start = start ++ writeLines lines := by
  induction lines generalizing start with
  | nil => simp [writeLines]
  | cons line lines ih =>
    rw [writeLines, List.foldl_cons, List.foldl_cons, ih, ih]
    simp [String.append_assoc]

theorem writeLines_append (xs ys : List String) :
    writeLines (xs ++ ys) = writeLines xs ++ writeLines ys := by
  rw [writeLines, List.foldl_append, foldl_eq_append_writeLines ys]
  rfl

/-- What is written later comes after what is written before, on both streams. -/
theorem Report.ofEmissions_append (xs ys : List Emission) (code code' code'' : Nat) :
    (ofEmissions (xs ++ ys) code).stdout =
        (ofEmissions xs code').stdout ++ (ofEmissions ys code'').stdout ∧
      (ofEmissions (xs ++ ys) code).stderr =
        (ofEmissions xs code').stderr ++ (ofEmissions ys code'').stderr := by
  simp [ofEmissions, writeLines_append]

variable {env : Environment} {files : String → FileEntry} {arguments : List String}
  {written : List Emission} {g : Engine} {text : String}

/-- What a batch reports. -/
theorem run_of_batch (h : begin env files arguments = .batch written g text)
    (stdin : List UInt8) :
    run env files arguments stdin =
      .ofEmissions
        (written ++ emissions ((stepsUntilFailure g (Script.segments text)).map Step.outcome))
        (if (stepsUntilFailure g (Script.segments text)).any (·.outcome.isFailure) then 1
          else 0) := by
  rw [run, h]
  simp only [runBatch, Session.runUntilFailure_eq_steps, List.any_map, Function.comp_def]

/-- A batch without a failure reports all its steps and ends with 0. -/
theorem run_of_batch_success (h : begin env files arguments = .batch written g text)
    (success : ∀ s ∈ steps g (Script.segments text), s.outcome.isFailure = false)
    (stdin : List UInt8) :
    run env files arguments stdin =
      .ofEmissions
        (written ++ emissions ((steps g (Script.segments text)).map Step.outcome)) 0 := by
  have quiet : (steps g (Script.segments text)).any (·.outcome.isFailure) = false := by
    rw [List.any_eq_false]
    intro s mem
    simp [success s mem]
  rw [run_of_batch h, Session.stepsUntilFailure_of_success success, quiet]
  rfl

/-- A batch with a failure reports the steps up to the first one and ends with 1. -/
theorem run_of_batch_failure (h : begin env files arguments = .batch written g text)
    {before after : List Step} {failed : Step}
    (cut : steps g (Script.segments text) = before ++ failed :: after)
    (success : ∀ s ∈ before, s.outcome.isFailure = false)
    (failure : failed.outcome.isFailure = true) (stdin : List UInt8) :
    run env files arguments stdin =
      .ofEmissions (written ++ emissions ((before ++ [failed]).map Step.outcome)) 1 := by
  rw [run_of_batch h, Session.stepsUntilFailure_of_failure cut success failure, if_pos]
  simp [failure]

/-- What an input that is a text reports. -/
theorem run_of_input (h : begin env files arguments = .input written g) (text : String) :
    run env files arguments text.toUTF8.data.toList =
      .ofEmissions
        (written ++ emissions ((steps g (Script.segments text)).map Step.outcome)) 0 := by
  rw [run, h]
  simp only [runInput_of_text]
  rfl

/-- Up to the first failure an input reports what a batch reports, and then what comes of the steps
that the batch leaves out. -/
theorem report_input_of_failure (h : begin env files arguments = .input written g) (text : String)
    {before after : List Step} {failed : Step}
    (cut : steps g (Script.segments text) = before ++ failed :: after) :
    let input := run env files arguments text.toUTF8.data.toList
    let batch := Report.ofEmissions
      (written ++ emissions ((before ++ [failed]).map Step.outcome)) 1
    let rest := Report.ofEmissions (emissions (after.map Step.outcome)) 0
    input.stdout = batch.stdout ++ rest.stdout ∧ input.stderr = batch.stderr ++ rest.stderr ∧
      input.code = 0 := by
  intro input batch rest
  have split : written ++ emissions ((before ++ failed :: after).map Step.outcome) =
      (written ++ emissions ((before ++ [failed]).map Step.outcome)) ++
        emissions (after.map Step.outcome) := by
    rw [List.append_cons, List.map_append, emissions_append, List.append_assoc]
  have report : input = .ofEmissions ((written ++
      emissions ((before ++ [failed]).map Step.outcome)) ++
        emissions (after.map Step.outcome)) 0 := by
    rw [← split, ← cut]
    exact run_of_input h text
  obtain ⟨out, err⟩ := Report.ofEmissions_append
    (written ++ emissions ((before ++ [failed]).map Step.outcome))
    (emissions (after.map Step.outcome)) 0 1 0
  rw [report]
  exact ⟨out, err, rfl⟩

/-! ### Beginnings -/

/-- A file with the bytes of a text is read as the text. -/
theorem readText_file_toUTF8 (text : String) :
    (FileEntry.file text.toUTF8).readText = .ok text := by
  show decodeText text.toUTF8.data.toList = .ok text
  rw [Utf8.encode_eq_toUTF8, decodeText_encode, String.ofList_toList]

/-- A script with the bytes of a text begins like the text on the command line. -/
theorem beginRun_script {files : String → FileEntry} {path text : String}
    (h : files path = .file text.toUTF8) (env : Environment) (settings : SettingsSource) :
    beginRun env files { script := some path, settings } =
      beginRun env files { commands := some text, settings } := by
  unfold beginRun
  simp only [h, readText_file_toUTF8]

/-- Settings, and not commands, say what is written first and which engine there is. -/
theorem beginRun_input_iff (env : Environment) (files : String → FileEntry)
    (settings : SettingsSource) (text : String) (written : List Emission) (g : Engine) :
    beginRun env files { settings } = .input written g ↔
      beginRun env files { commands := some text, settings } = .batch written g text := by
  unfold beginRun
  rcases Settings.load env.readDocument env.settingsPath files settings with ⟨loaded, warnings⟩
  dsimp only
  cases Engine.make loaded.engine with
  | error fault => simp
  | ok made => simp

/-! ### Both runs together -/

/-- **A batch does what the input does, up to the first failure.**  A text is carried out as a
batch, from a script or from the command line, and as an input; the two programs start with the same
engine and after the same warnings.

Beginnings: a script with the bytes of the text is the same batch as the text on the command line,
and without commands the same settings make the program read the input.  Steps: the input goes
through the segments of the whole text although it is cut into lines first, because a line feed
always ends a segment; each run is the trace of its steps.  Ends: without a failure the reports are
equal; with one, the batch stops there with the exit code 1, and the input has written the same so
far, goes on, and ends with 0. -/
theorem batch_agrees_with_input {env env' : Environment} {files files' : String → FileEntry}
    {arguments arguments' : List String} {written : List Emission} {g : Engine} {text : String}
    (batched : begin env files arguments = .batch written g text)
    (read : begin env' files' arguments' = .input written g) (ignored : List UInt8) :
    let lines := inputLines text.toUTF8.data.toList
    let whole := steps g (Script.segments text)
    let stopped := stepsUntilFailure g (Script.segments text)
    let batch := run env files arguments ignored
    let input := run env' files' arguments' text.toUTF8.data.toList
    (∀ env files settings path, files path = .file text.toUTF8 →
      beginRun env files { script := some path, settings } =
        beginRun env files { commands := some text, settings }) ∧
    (∀ env files settings written g, beginRun env files { settings } = .input written g ↔
      beginRun env files { commands := some text, settings } = .batch written g text) ∧
    (∀ first second : String, Script.segments (first ++ "\n" ++ second) =
      Script.segments first ++ Script.segments second) ∧
    inputSteps g lines = whole ∧ whole.map Step.segment = Script.segments text ∧
    runInput [] g lines =
      (emissions (whole.map Step.outcome), some (engineAfter g whole)) ∧
    Session.runUntilFailure g (Script.segments text) =
      (stopped.map Step.outcome, engineAfter g stopped) ∧
    ((∀ s ∈ whole, s.outcome.isFailure = false) →
      stopped = whole ∧ batch = input ∧ batch.code = 0) ∧
    ∀ before failed after, whole = before ++ failed :: after →
      (∀ s ∈ before, s.outcome.isFailure = false) → failed.outcome.isFailure = true →
      stopped = before ++ [failed] ∧
        batch = .ofEmissions
          (written ++ emissions ((before ++ [failed]).map Step.outcome)) 1 ∧
        input.stdout = batch.stdout ++
          (Report.ofEmissions (emissions (after.map Step.outcome)) 0).stdout ∧
        input.stderr = batch.stderr ++
          (Report.ofEmissions (emissions (after.map Step.outcome)) 0).stderr ∧
        batch.code = 1 ∧ input.code = 0 := by
  intro lines whole stopped batch input
  refine ⟨?_, ?_, Script.segments_append_lineFeed, ?_, ?_, ?_, ?_, ?_, ?_⟩
  · intro env files settings path content
    exact beginRun_script content env settings
  · intro env files settings written g
    exact beginRun_input_iff env files settings text written g
  · exact inputSteps_eq_steps g text
  · exact Session.map_segment_steps g (Script.segments text)
  · exact runInput_of_text g text
  · exact Session.runUntilFailure_eq_steps g (Script.segments text)
  · -- no step fails
    intro success
    have same : stopped = whole := Session.stepsUntilFailure_of_success success
    have report : batch = .ofEmissions (written ++ emissions (whole.map Step.outcome)) 0 :=
      run_of_batch_success batched success ignored
    refine ⟨same, ?_, ?_⟩
    · rw [report]
      exact (run_of_input read text).symm
    · rw [report]
      rfl
  · -- the step `failed` is the first to fail
    intro before failed after cut success failure
    have ended : stopped = before ++ [failed] :=
      Session.stepsUntilFailure_of_failure cut success failure
    have report : batch = .ofEmissions
        (written ++ emissions ((before ++ [failed]).map Step.outcome)) 1 :=
      run_of_batch_failure batched cut success failure ignored
    obtain ⟨out, err, code⟩ := report_input_of_failure read text cut
    refine ⟨ended, report, ?_, ?_, ?_, code⟩
    · rw [report]
      exact out
    · rw [report]
      exact err
    · rw [report]
      rfl

/-- A line end closes the quote that the second of three commands leaves open: the batch ends there,
and the input goes on with the third. -/
theorem batch_agrees_with_input_open_quote :
    let env : Environment := { readDocument := Toml.parse? }
    let files : String → FileEntry := fun _ => .absent .notFound
    let text := "count\r\nget \"b;c\ncount"
    let batch := run env files ["-c", text] []
    let input := run env files [] text.toUTF8.data.toList
    begin env files ["-c", text] = .batch [] (Engine.new {}) text ∧
      begin env files [] = .input [] (Engine.new {}) ∧
      Script.segments text = ["count", "get \"b;c", "count"] ∧
      input.stdout = batch.stdout ++ "0\n" ∧ batch.code = 1 ∧ input.code = 0 := by
  intro env files text batch input
  have batched : begin env files ["-c", text] = .batch [] (Engine.new {}) text := rfl
  have read : begin env files [] = .input [] (Engine.new {}) := rfl
  have segments : Script.segments text = ["count", "get \"b;c", "count"] := by decide +kernel
  let counted : Step := ⟨"count", .output "0", Engine.new {}⟩
  let refused : Step := ⟨"get \"b;c", .failed "unterminated quote", Engine.new {}⟩
  have cut : steps (Engine.new {}) (Script.segments text) =
      [counted] ++ refused :: [counted] := by
    rw [segments]
    rfl
  have success : ∀ s ∈ [counted], s.outcome.isFailure = false := by
    simp [counted, Outcome.isFailure]
  obtain ⟨-, -, -, -, -, -, -, -, stops⟩ := batch_agrees_with_input batched read []
  obtain ⟨-, -, out, -, one, zero⟩ := stops [counted] refused [counted] cut success rfl
  exact ⟨batched, read, segments, out, one, zero⟩

end CommandLine

end NamedCells
