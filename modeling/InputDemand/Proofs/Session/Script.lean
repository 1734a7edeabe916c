import InputDemand.Proofs.Session.Calls
import InputDemand.Session.Drive

/-!
# Sessions driven by a script

A script answers the questions of a session one by one.  The question behind some answers is told by
the plan of these answers alone, so a driven session is told by how much of the script it takes:
`ScriptEnd` lists the four ways in which it ends, and everything said of the answers, of the unused
rest and of the questions is read off there.
-/

namespace InputDemand

namespace Session

variable {analysis : Analysis}

/-- The question for the value at an index, told by a plan: for its slot, or for a value beyond. -/
def questionAt (analysis : Analysis) (plan : Plan) (index : Nat) : Question :=
  match plan.slots[index]? with
  | some slot => {
      number := index + 1
      text := slot.prompt.text
      iteration? := slot.iteration?
      manual := false
      line? := some (slot.prompt.site.span.line analysis.source) }
  | none => {
      number := index + 1
      text := "Value ".toList ++ Text.ofNat (index + 1)
      iteration? := none
      manual := true
      line? := none }

/-- The question behind some answers, told by the plan of these answers alone. -/
def questionAfter (analysis : Analysis) (answers : List Text) : Question :=
  questionAt analysis (analysis.plan answers) answers.length

/-- The first questions behind some answers while the given values answer them. -/
def questionsAlong (analysis : Analysis) (answers values : List Text) (count : Nat) :
    List Question :=
  (List.range count).map fun index => questionAfter analysis (answers ++ values.take index)

/-- The ways in which a session with some answers is driven by a script to its end: the plan is
covered; a blank ends the values beyond it, from the script or because that is exhausted; or the
script is exhausted before the plan is covered. -/
inductive ScriptEnd (analysis : Analysis) (answers : List Text) : List Text → Driven → Prop
  | completed (used rest : List Text) :
      (answers ++ used).length = (analysis.plan (answers ++ used)).size →
      ScriptEnd analysis answers (used ++ rest)
        ⟨⟨analysis, answers ++ used, analysis.plan (answers ++ used), .completed⟩,
          .ok (answers ++ used), questionsAlong analysis answers used used.length,
          rest.map .value⟩
  | blank (used : List Text) (last : Text) (rest : List Text) :
      (analysis.plan (answers ++ used)).size ≤ (answers ++ used).length →
      Text.blank last = true →
      ScriptEnd analysis answers (used ++ last :: rest)
        ⟨⟨analysis, answers ++ used, analysis.plan (answers ++ used), .completed⟩,
          .ok (answers ++ used), questionsAlong analysis answers used (used.length + 1),
          rest.map .value⟩
  | exhausted (used : List Text) :
      (analysis.plan (answers ++ used)).size ≤ (answers ++ used).length →
      ScriptEnd analysis answers used
        ⟨⟨analysis, answers ++ used, analysis.plan (answers ++ used), .completed⟩,
          .ok (answers ++ used), questionsAlong analysis answers used (used.length + 1), []⟩
  | cancelled (used : List Text) :
      (answers ++ used).length < (analysis.plan (answers ++ used)).size →
      ScriptEnd analysis answers used
        ⟨⟨analysis, [], analysis.plan (answers ++ used), .cancelled⟩,
          .error .userCancelled, questionsAlong analysis answers used (used.length + 1), []⟩

/-! ## Questions told by plans -/

theorem number_questionAt (plan : Plan) (index : Nat) :
    (questionAt analysis plan index).number = index + 1 := by
  unfold questionAt
  split <;> rfl

theorem questionAt_of_size_le {plan : Plan} {index : Nat} (beyond : plan.size ≤ index) :
    questionAt analysis plan index = {
      number := index + 1
      text := "Value ".toList ++ Text.ofNat (index + 1)
      iteration? := none
      manual := true
      line? := none } := by
  have missing : plan.slots[index]? = none := Array.getElem?_eq_none beyond
  rw [questionAt, missing]

theorem manual_questionAt_of_lt {plan : Plan} {index : Nat} (within : index < plan.size) :
    (questionAt analysis plan index).manual = false := by
  have found : plan.slots[index]? = some plan.slots[index] := Array.getElem?_eq_getElem within
  rw [questionAt, found]

theorem manual_questionAt_of_size_le {plan : Plan} {index : Nat} (beyond : plan.size ≤ index) :
    (questionAt analysis plan index).manual = true := by
  rw [questionAt_of_size_le beyond]

theorem question?_eq_questionAfter {answers : List Text}
    (unanswered : answers.length < (analysis.plan answers).size) :
    question? ⟨analysis, answers, analysis.plan answers, .awaiting⟩ =
      some (questionAfter analysis answers) := by
  obtain ⟨slot, found, asked⟩ := question?_of_awaiting unanswered
  rw [asked, questionAfter, questionAt, found]
  rfl

theorem manualQuestion_eq_questionAfter {answers : List Text}
    (covered : (analysis.plan answers).size ≤ answers.length) :
    question? ⟨analysis, answers, analysis.plan answers, .manual⟩ =
      some (questionAfter analysis answers) := by
  rw [questionAfter, questionAt_of_size_le covered]
  rfl

/-- Earlier questions are told by the plan of all answers as well, since what more answers add to a
plan stands behind the slot that is asked for next. -/
theorem questionAfter_take {answers : List Text} {index : Nat} (within : index ≤ answers.length) :
    questionAfter analysis (answers.take index) =
      questionAt analysis (analysis.plan answers) index := by
  have agree : (analysis.plan answers).slots[index]? =
      (analysis.plan (answers.take index)).slots[index]? := by
    have taken := Outline.slots_take_succ analysis.outline analysis.prompts answers index
    have read := congrArg (fun slots : List Slot => slots[index]?) taken
    simp only [List.getElem?_take, Nat.lt_succ_self, if_true, Array.getElem?_toList] at read
    exact read
  have length : (answers.take index).length = index := List.length_take_of_le within
  rw [questionAfter, questionAt, questionAt, length, agree]

theorem length_questionsAlong (answers values : List Text) (count : Nat) :
    (questionsAlong analysis answers values count).length = count := by
  rw [questionsAlong, List.length_map, List.length_range]

theorem questionsAlong_one (answers values : List Text) :
    questionsAlong analysis answers values 1 = [questionAfter analysis answers] := by
  simp [questionsAlong]

theorem questionsAlong_cons (answers : List Text) (value : Text) (values : List Text)
    (count : Nat) :
    questionsAlong analysis answers (value :: values) (count + 1) =
      questionAfter analysis answers ::
        questionsAlong analysis (answers ++ [value]) values count := by
  simp [questionsAlong, List.range_succ_eq_map, Function.comp_def]

theorem questionsAlong_nil {answers : List Text} {count : Nat}
    (within : count ≤ answers.length + 1) :
    questionsAlong analysis [] answers count =
      (List.range count).map (questionAt analysis (analysis.plan answers)) := by
  apply List.map_congr_left
  intro index member
  have below : index < count := List.mem_range.mp member
  rw [List.nil_append]
  exact questionAfter_take (by omega)

/-! ## Driving to the end -/

/-- One more question in front of a session driven to its end. -/
theorem ScriptEnd.cons {answers script : List Text} {value : Text} {driven : Driven}
    (ends : ScriptEnd analysis (answers ++ [value]) script driven) :
    ScriptEnd analysis answers (value :: script)
      { driven with asked := questionAfter analysis answers :: driven.asked } := by
  have joined : ∀ used : List Text, answers ++ [value] ++ used = answers ++ value :: used := by
    simp
  cases ends with
  | completed used rest covered =>
      rw [joined] at covered ⊢
      rw [← questionsAlong_cons]
      exact .completed (value :: used) rest covered
  | blank used last rest covered isBlank =>
      rw [joined] at covered ⊢
      rw [← questionsAlong_cons]
      exact .blank (value :: used) last rest covered isBlank
  | exhausted _ covered =>
      rw [joined] at covered ⊢
      rw [← questionsAlong_cons]
      exact .exhausted (value :: script) covered
  | cancelled _ unanswered =>
      rw [joined] at unanswered ⊢
      rw [← questionsAlong_cons]
      exact .cancelled (value :: script) unanswered

theorem goOn_of_completed (answers : List Text) (plan : Plan) (replies : List Reply) :
    goOn true ⟨analysis, answers, plan, .completed⟩ replies =
      ⟨⟨analysis, answers, plan, .completed⟩, .ok answers, [], replies⟩ := by
  cases replies <;> rfl

theorem goOn_cons {session answered : Session} {question : Question} {value : Text}
    (asks : session.question? = some question)
    (taken : session.submit value = .ok answered) (script : List Text) :
    goOn true session ((value :: script).map .value) =
      { goOn true answered (script.map .value) with
        asked := question :: (goOn true answered (script.map .value)).asked } := by
  simp only [List.map_cons, goOn, asks, taken]

theorem goOn_completed {answers : List Text}
    (covered : answers.length = (analysis.plan answers).size) (script : List Text) :
    ScriptEnd analysis answers script
      (goOn true ⟨analysis, answers, analysis.plan answers, .completed⟩
        (script.map .value)) := by
  have ended : ScriptEnd analysis answers script _ :=
    .completed [] script (by rw [List.append_nil]; exact covered)
  rw [goOn_of_completed]
  rw [List.append_nil] at ended
  exact ended

theorem goOn_manual {answers : List Text}
    (covered : (analysis.plan answers).size ≤ answers.length) (script : List Text) :
    ScriptEnd analysis answers script
      (goOn true ⟨analysis, answers, analysis.plan answers, .manual⟩
        (script.map .value)) := by
  have asks := manualQuestion_eq_questionAfter covered
  induction script generalizing answers with
  | nil =>
      have ended : ScriptEnd analysis answers [] _ :=
        .exhausted [] (by rw [List.append_nil]; exact covered)
      rw [List.append_nil] at ended
      rw [List.length_nil, questionsAlong_one, questionAfter,
        questionAt_of_size_le covered] at ended
      exact ended
  | cons value script inductionHypothesis =>
      cases isBlank : Text.blank value with
      | true =>
          have ended : ScriptEnd analysis answers (value :: script) _ :=
            .blank [] value script (by rw [List.append_nil]; exact covered) isBlank
          rw [List.append_nil] at ended
          rw [List.length_nil, questionsAlong_one] at ended
          have taken : submit ⟨analysis, answers, analysis.plan answers, .manual⟩ value =
              .ok ⟨analysis, answers, analysis.plan answers, .completed⟩ := by
            simp [submit, isBlank]
          rw [goOn_cons asks taken, goOn_of_completed]
          exact ended
      | false =>
          have taken : submit ⟨analysis, answers, analysis.plan answers, .manual⟩ value =
              .ok ⟨analysis, answers ++ [value], analysis.plan answers, .manual⟩ := by
            simp [submit, isBlank]
          -- The session keeps its plan here, which is still that of the longer answers.
          have settled : analysis.plan (answers ++ [value]) = analysis.plan answers :=
            Outline.plan_append_of_size_le covered [value]
          have longer : (analysis.plan (answers ++ [value])).size ≤
              (answers ++ [value]).length := by
            rw [settled, List.length_append]
            omega
          have ended :=
            (inductionHypothesis longer (manualQuestion_eq_questionAfter longer)).cons
          rw [settled] at ended
          rw [goOn_cons asks taken]
          exact ended

theorem goOn_advance {answers : List Text} (plan : Plan) (phase : Phase)
    (fits : answers.length ≤ (analysis.plan answers).size) (script : List Text)
    (awaiting : answers.length < (analysis.plan answers).size →
      ScriptEnd analysis answers script
        (goOn true ⟨analysis, answers, analysis.plan answers, .awaiting⟩
          (script.map .value))) :
    ScriptEnd analysis answers script
      (goOn true (advance ⟨analysis, answers, plan, phase⟩) (script.map .value)) := by
  rcases advance_cases plan phase fits with
    ⟨more, advanced⟩ | ⟨_, covered, advanced⟩ | ⟨_, covered, advanced⟩
  · rw [advanced]
    exact awaiting more
  · rw [advanced]
    exact goOn_completed covered script
  · rw [advanced]
    exact goOn_manual covered script

theorem goOn_awaiting {answers : List Text}
    (unanswered : answers.length < (analysis.plan answers).size) (script : List Text) :
    ScriptEnd analysis answers script
      (goOn true ⟨analysis, answers, analysis.plan answers, .awaiting⟩
        (script.map .value)) := by
  have asks := question?_eq_questionAfter unanswered
  induction script generalizing answers with
  | nil =>
      have ended : ScriptEnd analysis answers [] _ :=
        .cancelled [] (by rw [List.append_nil]; exact unanswered)
      rw [List.append_nil] at ended
      have planned : (questionAfter analysis answers).manual = false :=
        manual_questionAt_of_lt unanswered
      have abandons :
          goOn true ⟨analysis, answers, analysis.plan answers, .awaiting⟩ [] =
            ⟨⟨analysis, [], analysis.plan answers, .cancelled⟩, .error .userCancelled,
              [questionAfter analysis answers], []⟩ := by
        simp [goOn, asks, exhausted, planned, abandoned, cancel, Phase.isFinal]
      rw [List.length_nil, questionsAlong_one] at ended
      rw [List.map_nil, abandons]
      exact ended
  | cons value script inductionHypothesis =>
      have taken : submit ⟨analysis, answers, analysis.plan answers, .awaiting⟩ value =
          .ok (advance ⟨analysis, answers ++ [value], analysis.plan answers, .awaiting⟩) := rfl
      rw [goOn_cons asks taken]
      refine ScriptEnd.cons (goOn_advance _ _ (length_le_size_append unanswered value) script ?_)
      intro more
      exact inductionHypothesis more (question?_eq_questionAfter more)

theorem scriptEnd_driveScript (analysis : Analysis) (script : List Text) :
    ScriptEnd analysis [] script ((new analysis).driveScript script) := by
  have started : (new analysis).start = (new analysis).advance := rfl
  rw [driveScript, drive, started]
  exact goOn_advance _ _ (Nat.zero_le _) script (fun more => goOn_awaiting more script)

/-! ## The account of a script -/

/-- Whether the last question was for a value beyond the plan and the script answered it by a
blank. -/
def EndedByBlank (script : List Text) (driven : Driven) : Prop :=
  ∃ question value, driven.asked.getLast? = some question ∧ question.manual = true ∧
    script[driven.asked.length - 1]? = some value ∧ Text.blank value = true

/-- Whether the last question was for a value of the plan and the script had no answer to it. -/
def OutOfAnswers (script : List Text) (driven : Driven) : Prop :=
  ∃ question, driven.asked.getLast? = some question ∧ question.manual = false ∧
    script.length < driven.asked.length

/-- What callers may rely on when a session was driven by a script. -/
structure Accounted (analysis : Analysis) (script : List Text) (driven : Driven) : Prop where
  bounded : driven.asked.length ≤ script.length + 1
  accepted : ∀ phase, driven.result ≠ .error (.notAwaiting phase)
  conserved : ∀ answers, driven.result = .ok answers →
    ∃ rest, script = answers ++ rest ∧
      ((¬ EndedByBlank script driven ∧ driven.unused = rest.map .value) ∨
        (EndedByBlank script driven ∧
          ∃ value unused, rest = value :: unused ∧ driven.unused = unused.map .value))
  cancelled : driven.result = .error .userCancelled ↔ OutOfAnswers script driven
  dropped : driven.result = .error .userCancelled →
    driven.session.phase = .cancelled ∧ driven.session.answers = [] ∧ driven.unused = []
  numbered : driven.asked.map Question.number = List.range' 1 driven.asked.length
  planned : ∀ answers, driven.result = .ok answers →
    (analysis.plan answers).size ≤ driven.asked.length ∧
      ∀ index question, driven.asked[index]? = some question →
        (∀ slot, (analysis.plan answers).slots[index]? = some slot →
          question.manual = false ∧ question.text = slot.prompt.text ∧
            question.iteration? = slot.iteration?) ∧
        ((analysis.plan answers).size ≤ index →
          question.manual = true ∧ question.text = "Value ".toList ++ Text.ofNat (index + 1))

theorem numbers_questionAt (plan : Plan) (count : Nat) :
    ((List.range count).map (questionAt analysis plan)).map Question.number =
      List.range' 1 count := by
  rw [List.map_map, List.range'_eq_map_range]
  apply List.map_congr_left
  intro index _
  simp only [Function.comp_apply, number_questionAt]
  omega

theorem getLast?_questionAt (plan : Plan) (count : Nat) :
    ((List.range (count + 1)).map (questionAt analysis plan)).getLast? =
      some (questionAt analysis plan count) := by
  rw [List.range_succ, List.map_append, List.map_singleton, List.getLast?_concat]

theorem not_endedByBlank_of_lt {script : List Text} {driven : Driven}
    (short : script.length < driven.asked.length) : ¬ EndedByBlank script driven := by
  rintro ⟨question, value, _, _, answered, _⟩
  have missing : script[driven.asked.length - 1]? = none :=
    List.getElem?_eq_none (by omega)
  rw [missing] at answered
  cases answered

theorem planned_questionAt {plan : Plan} {count : Nat} {index : Nat} {question : Question}
    (asked : ((List.range count).map (questionAt analysis plan))[index]? = some question) :
    (∀ slot, plan.slots[index]? = some slot →
      question.manual = false ∧ question.text = slot.prompt.text ∧
        question.iteration? = slot.iteration?) ∧
    (plan.size ≤ index →
      question.manual = true ∧ question.text = "Value ".toList ++ Text.ofNat (index + 1)) := by
  have told : question = questionAt analysis plan index := by
    obtain ⟨within, read⟩ := List.getElem?_eq_some_iff.mp asked
    rw [List.getElem_map, List.getElem_range] at read
    exact read.symm
  subst told
  constructor
  · intro slot found
    rw [questionAt, found]
    exact ⟨rfl, rfl, rfl⟩
  · intro beyond
    rw [questionAt_of_size_le beyond]
    exact ⟨rfl, rfl⟩

theorem manual_of_mem_questionAt {plan : Plan} {count : Nat} (within : count ≤ plan.size)
    {question : Question}
    (member : question ∈ (List.range count).map (questionAt analysis plan)) :
    question.manual = false := by
  obtain ⟨index, below, told⟩ := List.mem_map.mp member
  have bound : index < count := List.mem_range.mp below
  rw [← told]
  exact manual_questionAt_of_lt (by omega)

/-- The questions of a driven session are told by the plan of the answers that it took. -/
theorem ScriptEnd.asked {script : List Text} {driven : Driven}
    (ends : ScriptEnd analysis [] script driven) :
    ∃ answers count,
      driven.asked = (List.range count).map (questionAt analysis (analysis.plan answers)) ∧
        count ≤ script.length + 1 ∧
        ∀ taken, driven.result = .ok taken →
          taken = answers ∧ (analysis.plan answers).size ≤ count := by
  cases ends with
  | completed used rest covered =>
      refine ⟨used, used.length, questionsAlong_nil (by omega), ?_, ?_⟩
      · rw [List.length_append]
        omega
      · intro taken equality
        cases equality
        exact ⟨rfl, Nat.le_of_eq covered.symm⟩
  | blank used last rest covered isBlank =>
      refine ⟨used, used.length + 1, questionsAlong_nil (Nat.le_refl _), ?_, ?_⟩
      · rw [List.length_append]
        omega
      · intro taken equality
        cases equality
        exact ⟨rfl, Nat.le_succ_of_le covered⟩
  | exhausted _ covered =>
      refine ⟨script, script.length + 1, questionsAlong_nil (Nat.le_refl _), Nat.le_refl _, ?_⟩
      intro taken equality
      cases equality
      exact ⟨rfl, Nat.le_succ_of_le covered⟩
  | cancelled _ unanswered =>
      refine ⟨script, script.length + 1, questionsAlong_nil (Nat.le_refl _), Nat.le_refl _, ?_⟩
      intro taken equality
      cases equality

/-- The answers are the front of the script; the rest of it is unused, but for a blank that ended
the session. -/
theorem ScriptEnd.conserved {script answers : List Text} {driven : Driven}
    (ends : ScriptEnd analysis [] script driven) (finished : driven.result = .ok answers) :
    ∃ rest, script = answers ++ rest ∧
      ((¬ EndedByBlank script driven ∧ driven.unused = rest.map .value) ∨
        (EndedByBlank script driven ∧
          ∃ value unused, rest = value :: unused ∧ driven.unused = unused.map .value)) := by
  cases ends with
  | completed used rest covered =>
      cases finished
      refine ⟨rest, rfl, Or.inl ⟨?_, rfl⟩⟩
      rintro ⟨question, value, last, manual, _⟩
      -- All questions were planned ones, so none can be ended by a blank.
      have member := List.mem_of_getLast? last
      rw [questionsAlong_nil (by omega)] at member
      have planned : question.manual = false :=
        manual_of_mem_questionAt (Nat.le_of_eq covered) member
      rw [planned] at manual
      cases manual
  | blank used last rest covered isBlank =>
      cases finished
      refine ⟨last :: rest, rfl, Or.inr ⟨?_, last, rest, rfl, rfl⟩⟩
      refine ⟨questionAt analysis (analysis.plan used) used.length, last, ?_, ?_, ?_, isBlank⟩
      · rw [questionsAlong_nil (Nat.le_refl _)]
        exact getLast?_questionAt _ _
      · exact manual_questionAt_of_size_le covered
      · rw [length_questionsAlong]
        simp
  | exhausted _ covered =>
      cases finished
      refine ⟨[], by simp, Or.inl ⟨?_, rfl⟩⟩
      apply not_endedByBlank_of_lt
      rw [length_questionsAlong]
      exact Nat.lt_succ_self _
  | cancelled _ unanswered => cases finished

/-- A driven session is cancelled exactly if the script has no answer to a planned question. -/
theorem ScriptEnd.cancelled_iff {script : List Text} {driven : Driven}
    (ends : ScriptEnd analysis [] script driven) :
    driven.result = .error .userCancelled ↔ OutOfAnswers script driven := by
  cases ends with
  | completed used rest covered =>
      refine ⟨fun equality => (by cases equality), ?_⟩
      rintro ⟨question, _, _, out⟩
      rw [length_questionsAlong, List.length_append] at out
      omega
  | blank used last rest covered isBlank =>
      refine ⟨fun equality => (by cases equality), ?_⟩
      rintro ⟨question, _, _, out⟩
      rw [length_questionsAlong, List.length_append, List.length_cons] at out
      omega
  | exhausted _ covered =>
      refine ⟨fun equality => (by cases equality), ?_⟩
      rintro ⟨question, last, planned, _⟩
      rw [questionsAlong_nil (Nat.le_refl _), getLast?_questionAt] at last
      cases last
      have manual : (questionAt analysis (analysis.plan script) script.length).manual = true :=
        manual_questionAt_of_size_le covered
      rw [planned] at manual
      cases manual
  | cancelled _ unanswered =>
      refine ⟨fun _ => ?_, fun _ => rfl⟩
      refine ⟨questionAt analysis (analysis.plan script) script.length, ?_, ?_, ?_⟩
      · rw [questionsAlong_nil (Nat.le_refl _)]
        exact getLast?_questionAt _ _
      · exact manual_questionAt_of_lt unanswered
      · rw [length_questionsAlong]
        exact Nat.lt_succ_self _

/-- Every script accounts for the questions, the answers and the end of the session it drives. -/
theorem accounted_driveScript (analysis : Analysis) (script : List Text) :
    Accounted analysis script ((new analysis).driveScript script) := by
  have ends := scriptEnd_driveScript analysis script
  generalize (new analysis).driveScript script = driven at ends
  obtain ⟨answers, count, asked, bound, told⟩ := ends.asked
  have length : driven.asked.length = count := by
    rw [asked, List.length_map, List.length_range]
  constructor
  · rw [length]
    exact bound
  · intro phase refused
    cases ends <;> cases refused
  · intro taken finished
    exact ends.conserved finished
  · exact ends.cancelled_iff
  · intro stopped
    cases ends with
    | cancelled _ unanswered => exact ⟨rfl, rfl, rfl⟩
    | _ => cases stopped
  · rw [length, asked]
    exact numbers_questionAt _ _
  · intro taken finished
    obtain ⟨rfl, covers⟩ := told taken finished
    refine ⟨length ▸ covers, ?_⟩
    intro index question found
    rw [asked] at found
    exact planned_questionAt found

end Session

end InputDemand
