/-
# Worker.RoundTrip -- what is read back from an input file

`write_inputs_jsonl` escapes every prompt, so no prompt can end a line, and stamps every
record with its position, which no prompt can replace.  Whoever splits the file at the
newlines and decodes the lines has the request back.

* `write_inputs_file`: a run of `write_inputs_jsonl` that returns leaves the whole text;
* `split_inputText`: split at the newlines it is one line for each prompt, and the end;
* `input_round_trip`: the lines decode to the positions and the prompts, and sorting the
  records by position, from any order, gives the list of the request.
-/
import KubeRayBatch.Worker.Answers
import KubeRayBatch.Worker.Rerun

namespace KubeRayBatch.Worker

open Theory Cluster Api

set_option autoImplicit false

/-! ## The file that a run writes -/

section File

variable {rd : RayData} {pid : Nat} {b : String} {α : Type}

/-- One operation of a program that runs alone. -/
theorem solitary_ask {op : Op} {P : World → Prop} {R : op.Res → World → Prop} {f : op.Res → Proc α}
    {Q : α → World → Prop}
    (does : ∀ c w a w', P w → exec rd pid op c w = some (a, w') → R a w')
    (rest : ∀ a, Contract.Outline (machine rd pid) solitary (f a) (R a) Q fun _ _ => True) :
    Contract.Outline (machine rd pid) solitary ((ask op).bind f) P Q fun _ _ => True := by
  refine Contract.Outline.ask (D := R) (F := fun (_ : PyException) _ => True) ?_
    (fun _ _ _ _ => trivial) rest
  refine ⟨fun _ _ _ _ _ moved => moved.elim, fun _ _ _ _ _ moved => moved.elim,
    fun _ _ _ => trivial, ?_, fun _ _ _ _ _ => trivial⟩
  intro w c a w' _ holds _ executed
  exact ⟨trivial, trivial, does c w a w' holds executed, fun _ _ => trivial⟩

/-- What is still to come completes the input file. -/
def Rest (b : String) (whole rest : Text) (w : World) : Prop :=
  ∃ written, (w.dirs b).file .input = some written ∧ written ++ rest = whole

theorem writeText_rest (whole text later : Text) :
    Contract.Outline (machine rd pid) solitary (writeText b .input text) (Rest b whole (text ++ later))
      (fun _ => Rest b whole later) fun _ _ => True := by
  refine Contract.Outline.forEach (I := fun rest => Rest b whole (rest ++ later)) (fun c rest => ?_) text
  have one : ask (.dir b (.append .input [c])) = (ask (.dir b (.append .input [c]))).bind .ret :=
    (Program.bind_ret _).symm
  rw [one]
  refine solitary_ask (R := fun _ => Rest b whole (rest ++ later)) ?_ fun _ =>
    Contract.Outline.ret fun _ _ holds => holds
  rintro choice w a w' ⟨written, found, whole'⟩ executed
  obtain ⟨d, performed, rfl⟩ := dir_exec rd pid executed
  simp only [DirOp.exec, found, Option.map_some] at performed
  cases performed
  refine ⟨written ++ [c], by simp, ?_⟩
  rw [List.append_assoc]
  exact whole'

/-- The lines of numbered records. -/
def numberedText (rest : List (Json.Record × Nat)) : Text :=
  rest.flatMap fun (item, idx) => inputLine idx item

theorem write_inputs_outline (root : String) (items : List Json.Record) :
    Contract.Outline (machine rd pid) solitary (write_inputs_jsonl root b items) (fun _ => True)
      (fun _ w => (w.dirs b).file .input = some (inputText items)) fun _ _ => True := by
  unfold write_inputs_jsonl
  by_cases empty : items.isEmpty = true
  · rw [if_pos empty]
    exact Contract.Outline.raise fun _ _ _ => trivial
  · rw [if_neg empty]
    refine solitary_ask (R := fun _ _ => True) (fun _ _ _ _ _ _ => trivial) fun _ => ?_
    refine solitary_ask (R := fun _ => Rest b (inputText items) (inputText items)) ?_ fun _ => ?_
    · rintro c w a w' - executed
      obtain ⟨d, performed, rfl⟩ := dir_exec rd pid executed
      obtain ⟨-, same⟩ := Option.ite_none_right_eq_some.1 performed
      cases same
      exact ⟨[], by simp, List.nil_append _⟩
    · refine Contract.Outline.bind (R := fun _ => Rest b (inputText items) []) ?_ fun _ => ?_
      · refine (Contract.Outline.forEach (I := fun (rest : List (Json.Record × Nat)) =>
          Rest b (inputText items) (numberedText rest)) ?_ _)
        rintro ⟨item, idx⟩ rest
        exact writeText_rest (inputText items) (inputLine idx item) _
      · refine Contract.Outline.ret fun w _ all => ?_
        obtain ⟨written, found, whole⟩ := all
        rw [List.append_nil] at whole
        exact whole ▸ found

/-- **A run that returns** has written the whole input file. -/
theorem write_inputs_file {events : List Event} {root path : String} {items : List Json.Record}
    {w w' : World}
    (ran : Program.run (machine rd pid) events (write_inputs_jsonl root b items) w =
      some (.ret path, w')) : (w'.dirs b).file .input = some (inputText items) := by
  have here : Contract.Holds (machine rd pid) solitary (write_inputs_jsonl root b items) _ _ w :=
    ⟨_, fun _ _ _ _ _ _ => trivial, trivial, write_inputs_outline root items⟩
  exact (here.run trivial (fun _ _ => trivial) ran).2.returned trivial

end File

/-! ## Splitting it -/

theorem splitOn_unlines {ls : List Text} (whole : ∀ line ∈ ls, '\n' ∉ line) :
    (TextLines.unlines ls).splitOn '\n' = ls ++ [[]] := by
  induction ls with
  | nil => rfl
  | cons line ls ih =>
      have rest := ih fun later mem => whole later (List.mem_cons_of_mem line mem)
      have split : TextLines.unlines (line :: ls) = line ++ '\n' :: TextLines.unlines ls := by
        simp [TextLines.unlines]
      rw [split, List.splitOn_append_cons_self_of_not_mem (whole line List.mem_cons_self), rest]
      rfl

/-- The record of a prompt, without the end of its line. -/
def inputRecordLine (placed : BatchInputItem × Nat) : Text :=
  Json.dumps (inputRecord placed.2 placed.1.model_dump)

theorem inputText_lines (input : List BatchInputItem) :
    inputText (input.map (·.model_dump)) = TextLines.unlines (input.zipIdx.map inputRecordLine) := by
  rw [inputText_unlines, List.zipIdx_map, List.map_map]
  rfl

theorem newline_not_in_record (placed : BatchInputItem × Nat) : '\n' ∉ inputRecordLine placed := by
  intro inLine
  have printable : 32 ≤ '\n'.toNat := by
    refine Json.dumps_printable ?_ inLine
    intro member inRecord x
    rw [inputRecord_prompt] at inRecord
    simp only [List.mem_cons, List.not_mem_nil, or_false] at inRecord
    rcases inRecord with rfl | rfl <;> simp
  exact absurd printable (by decide)

theorem split_inputText (input : List BatchInputItem) :
    (inputText (input.map (·.model_dump))).splitOn '\n' = input.zipIdx.map inputRecordLine ++ [[]] := by
  rw [inputText_lines]
  refine splitOn_unlines fun line mem => ?_
  obtain ⟨placed, -, rfl⟩ := List.mem_map.1 mem
  exact newline_not_in_record placed

/-! ## Decoding it -/

/-- What `json.loads` gives for the line of a prompt. -/
def decodedInput (placed : BatchInputItem × Nat) : Json.Value :=
  .obj [(.ofText "id".toList, .str (.ofText (toString placed.2).toList)),
    (.ofText "prompt".toList, .str (.ofText placed.1.prompt.toList))]

theorem loads_inputRecordLine (placed : BatchInputItem × Nat) :
    Json.loads (inputRecordLine placed) = some (decodedInput placed) := by
  unfold inputRecordLine
  rw [Json.loads_dumps, inputRecord_prompt]
  simp [Json.decoded, decodedInput]

/-- `int(row["id"])` -/
def position (row : InputRow) : Int := (intOfStr row.id.toList).getD 0

theorem position_stamped (idx : Nat) (prompt : String) :
    position ⟨toString idx, prompt⟩ = idx := by
  unfold position
  rw [Decimal.toList_toString, intOfStr_chars]
  rfl

/-- The rows of a request have increasing positions. -/
theorem inputRows_increasing (input : List BatchInputItem) :
    (inputRows input).Pairwise fun row later => position row < position later := by
  unfold inputRows
  rw [List.pairwise_map]
  have positions : input.zipIdx.Pairwise fun placed later => placed.2 < later.2 := by
    rw [← List.pairwise_map (f := Prod.snd), List.zipIdx_map_snd]
    exact List.pairwise_lt_range'
  refine positions.imp fun earlier => ?_
  rw [position_stamped, position_stamped]
  omega

/-- **Sorting by position**, from any order, gives the rows of the request. -/
theorem sort_inputRows {input : List BatchInputItem} {rows : List InputRow}
    (perm : rows.Perm (inputRows input)) :
    rows.mergeSort (fun row later => position row ≤ position later) = inputRows input := by
  have distinct : ((inputRows input).map position).Nodup := by
    rw [List.Nodup, List.pairwise_map]
    exact (inputRows_increasing input).imp fun earlier => by omega
  have sorted : (rows.mergeSort fun row later => position row ≤ position later).Pairwise
      fun row later => decide (position row ≤ position later) = true := by
    refine List.pairwise_mergeSort ?_ ?_ rows
    · intro first second third
      simp only [decide_eq_true_eq]
      omega
    · intro first second
      simp only [Bool.or_eq_true, decide_eq_true_eq]
      omega
  refine List.Perm.eq_of_pairwise ?_ sorted ?_ ((List.mergeSort_perm _ _).trans perm)
  · intro row later mem mem' before after
    have inInput : row ∈ inputRows input := perm.subset (List.mem_mergeSort.1 mem)
    simp only [decide_eq_true_eq] at before after
    exact List.inj_on_of_nodup_map distinct inInput mem' (by omega)
  · exact (inputRows_increasing input).imp fun earlier => by
      simp only [decide_eq_true_eq]
      omega

theorem resultRow_inputRecordLine (placed : BatchInputItem × Nat) :
    resultRow (inputRecordLine placed) = some ⟨toString placed.2, placed.1.prompt⟩ := by
  exact resultRow_of_members (loads_inputRecordLine placed) rfl rfl

theorem mapM_resultRow (input : List BatchInputItem) :
    (input.zipIdx.map inputRecordLine).mapM resultRow = some (inputRows input) :=
  TextLines.mapM_map_some fun placed _ => resultRow_inputRecordLine placed

/-- **key theorem.** The file that a run writes for a request, split at the newlines, is one
line for each prompt and the empty end; line `i` decodes to the id `i` and prompt `i` and
nothing else; the ids are distinct; and the rows sorted by `int(id)`, from any order, have
the prompts of the request. -/
theorem input_round_trip {rd : RayData} {pid : Nat} {events : List Event} {root b path : String}
    {request : CreateBatchRequest} {w w' : World}
    (ran : Program.run (machine rd pid) events
      (write_inputs_jsonl root b (request.input.map (·.model_dump))) w = some (.ret path, w')) :
    ∃ (content : Text) (lines : List Text) (rows : List InputRow), (w'.dirs b).file .input = some content ∧
      content.splitOn '\n' = lines ++ [[]] ∧
      lines.length = request.input.length ∧
      (∀ (i : Nat) (line : Text) (item : BatchInputItem), lines[i]? = some line →
        request.input[i]? = some item → Json.loads line =
          some (.obj [(.ofText "id".toList, .str (.ofText (toString i).toList)),
            (.ofText "prompt".toList, .str (.ofText item.prompt.toList))])) ∧
      lines.mapM resultRow = some rows ∧ (rows.map (·.id)).Nodup ∧
      ∀ shuffled : List InputRow, shuffled.Perm rows →
        (shuffled.mergeSort fun row later => position row ≤ position later).map (·.prompt) =
          request.input.map (·.prompt) := by
  refine ⟨_, request.input.zipIdx.map inputRecordLine, inputRows request.input,
    write_inputs_file ran, split_inputText request.input, by simp, ?_, mapM_resultRow request.input,
    ?_, ?_⟩
  · intro i line item isLine isItem
    rw [List.getElem?_map, List.getElem?_zipIdx, isItem] at isLine
    cases isLine
    rw [loads_inputRecordLine]
    simp [decodedInput]
  · rw [inputRows_ids]
    exact (List.nodup_range' 1).map toString_injective
  · intro shuffled perm
    rw [sort_inputRows perm]
    calc (inputRows request.input).map (·.prompt)
        = (request.input.zipIdx.map Prod.fst).map (·.prompt) := by
          rw [inputRows, List.map_map, List.map_map]
          rfl
      _ = request.input.map (·.prompt) := by rw [List.zipIdx_map_fst]

/-- A prompt with a newline and a quote. -/
def lineBreak : BatchInputItem := ⟨"\n\"", by decide, by decide⟩

/-- Eleven prompts, so that the texts of the ids do not sort as the positions do. -/
def lineBreakRequest : CreateBatchRequest :=
  { hiRequest with
    input := List.replicate 10 hi ++ [lineBreak]
    input_min_length := by decide
    input_max_length := by decide }

theorem input_round_trip_line_break :
    ∃ (w' : World) (content : Text) (lines : List Text) (rows : List InputRow),
      (w'.dirs "batch_1").file .input = some content ∧ content.splitOn '\n' = lines ++ [[]] ∧
      lines.length = 11 ∧ lines.mapM resultRow = some rows ∧ (rows.map (·.id)).Nodup ∧
      (rows.reverse.mergeSort fun row later => position row ≤ position later).map (·.prompt) =
        List.replicate 10 "hi" ++ ["\n\""] := by
  have value : ((Program.perform (machine (rayAnswering pickyActor) 0) (smooth "b.json" [])
      (write_inputs_jsonl "/data/batches" "batch_1" (lineBreakRequest.input.map (·.model_dump)))
      World.init).bind fun result => result.1.toOption) =
        some (filePath "/data/batches" "batch_1" .input) := by decide +kernel
  obtain ⟨w', performed⟩ := Program.perform_returned _ _ value
  obtain ⟨events, ran⟩ := Program.run_of_perform _ _ performed
  obtain ⟨content, lines, rows, found, split, length, -, decoded, distinct, sorted⟩ :=
    input_round_trip ran
  exact ⟨w', content, lines, rows, found, split, length, decoded, distinct,
    sorted rows.reverse (List.reverse_perm rows)⟩

end KubeRayBatch.Worker
