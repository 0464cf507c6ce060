/-
# Worker.JobOutline -- the proof outline of a job, for any world it runs in

A job touches the shared world in few ways: it logs and reads clocks, and it
changes its own batch directory by one of the steps of `DirStep`.  `JobContract`
is what a contract must offer so that a job can run under it, and `runJob_outline`
is the outline of `main` under any such contract.  Its postcondition says exactly
what a normal return leaves behind (`Finished`): which staged file was promoted,
that the counts are its tally, and what the marker holds.

A contract that lets nobody interfere gives the behaviour of a single run; the
contract of the whole cluster gives what the pollers may rely on.
-/
import KubeRayBatch.Worker.BatchInfer

namespace KubeRayBatch.Worker

open Theory Cluster Api

set_option autoImplicit false

/-! ## What a job may do -/

/-- One step of a job on its directory.  `Granted` is what the contract grants
about a promoted file in the directory it is promoted in, `Said` about the text of a failure. -/
inductive DirStep (rt : Runtime) (Granted : Dir → Text → Prop) (Said : Str → Prop) (b : String) :
    Dir → Dir → Prop where
  | staging (d : Dir) (made : Bool) (files : Option (List (String × Text)))
      (keeps : d.made = true → made = true) :
      DirStep rt Granted Said b d { d with made := made, staging := files }
  | promote (d : Dir) (content : Text) (files : Option (List (String × Text)))
      (granted : Granted d content) :
      DirStep rt Granted Said b d { d.setFile .results (some content) with staging := files }
  | dropFailed (d : Dir) : DirStep rt Granted Said b d (d.setFile .failed none)
  | success (d : Dir) (content text more : Text) (model : String) (counts : Counts) (x : Json.Float)
      (results : d.file .results = some content) (granted : ∃ before, Granted before content)
      (tallied : tallyOf rt content = .ok (counts.completed, counts.failed))
      (written : text ++ more = Json.dumps (successRecord b model counts x)) :
      DirStep rt Granted Said b d (d.setFile .success (some text))
  | failed (d : Dir) (text more : Text) (error traceback : Str) (x : Json.Float)
      (said : Said error)
      (written : text ++ more = Json.dumps (failureRecord b error traceback x)) :
      DirStep rt Granted Said b d (d.setFile .failed (some text))

theorem DirStep.input {rt : Runtime} {Granted : Dir → Text → Prop} {Said : Str → Prop}
    {b : String} {d d' : Dir} (stepped : DirStep rt Granted Said b d d') : d'.file .input = d.file .input := by
  cases stepped with
  | staging => rfl
  | promote content => exact Dir.setFile_other d .results .input (some content) (by decide)
  | dropFailed => exact Dir.setFile_other d .failed .input none (by decide)
  | success content text => exact Dir.setFile_other d .success .input (some text) (by decide)
  | failed text => exact Dir.setFile_other d .failed .input (some text) (by decide)

/-- A contract under which a job of batch `b` can run; `Here` says that the process
runs this job. -/
structure JobContract (rt : Runtime) (Granted : Dir → Text → Prop) (Said : Str → Prop) (b : String)
    (C : Contract Op World) (Here : World → Prop) : Prop where
  stable : ∀ P : Dir → Prop, C.Stable fun w => Here w ∧ P (w.dirs b)
  allowed : ∀ op w, C.inv w → Here w → (∀ b' d, op = .dir b' d → b' = b) → C.allowed op w
  quiet : ∀ w w', C.inv w → Here w → Quiet w w' → C.inv w' ∧ C.guar w w' ∧ Here w'
  move : ∀ w d, C.inv w → Here w → DirStep rt Granted Said b (w.dirs b) d →
    C.inv (w.setDir b d) ∧ C.guar w (w.setDir b d) ∧ Here (w.setDir b d)
  granted : ∀ w name files content, C.inv w → Here w → C.grants (.dir b (.promote name)) w →
    (w.dirs b).staging = some files → files.lookup name = some content → Granted (w.dirs b) content
  said : ∀ w message, C.inv w → Here w →
    C.grants (.log .error ("Batch " ++ b ++ " FAILED: " ++ shown message)) w → Said message

/-! ## Outlines in terms of the directory -/

/-- An outline of a part of a job whose assertions speak of its directory.  Of an
exception only `Here` is kept. -/
def DirOutline (rd : RayData) (pid : Nat) (b : String) (C : Contract Op World) (Here : World → Prop)
    {α : Type} (p : Proc α) (P : Dir → Prop) (Q : α → Dir → Prop) : Prop :=
  Contract.Outline (machine rd pid) C p (fun w => Here w ∧ P (w.dirs b))
    (fun a w => Here w ∧ Q a (w.dirs b)) fun _ w => Here w

namespace DirOutline

variable {rt : Runtime} {Granted : Dir → Text → Prop} {Said : Str → Prop} {b : String}
variable {C : Contract Op World} {Here : World → Prop}
variable (contract : JobContract rt Granted Said b C Here)
variable {rd : RayData} {pid : Nat} {α β : Type} {P P' : Dir → Prop}

theorem pre {p : Proc α} {Q : α → Dir → Prop} (valid : DirOutline rd pid b C Here p P Q)
    (weaker : ∀ d, P' d → P d) : DirOutline rd pid b C Here p P' Q :=
  Contract.Outline.pre valid fun w _ ⟨here, holds⟩ => ⟨here, weaker (w.dirs b) holds⟩

theorem post {p : Proc α} {Q Q' : α → Dir → Prop} (valid : DirOutline rd pid b C Here p P Q)
    (weaker : ∀ a d, Q a d → Q' a d) : DirOutline rd pid b C Here p P Q' :=
  Contract.Outline.weaken valid (fun _ _ holds => holds)
    (fun a w _ ⟨here, holds⟩ => ⟨here, weaker a (w.dirs b) holds⟩) fun _ _ _ here => here

theorem ret {a : α} {Q : α → Dir → Prop} (post : ∀ d, P d → Q a d) :
    DirOutline rd pid b C Here (.ret a) P Q :=
  Contract.Outline.ret fun w _ ⟨here, holds⟩ => ⟨here, post (w.dirs b) holds⟩

theorem raise {e : PyException} {Q : α → Dir → Prop} :
    DirOutline rd pid b C Here (.raise e) P Q :=
  Contract.Outline.raise fun _ _ holds => holds.1

theorem bind {p : Proc β} {f : β → Proc α} {R : β → Dir → Prop} {Q : α → Dir → Prop}
    (first : DirOutline rd pid b C Here p P R)
    (rest : ∀ x, DirOutline rd pid b C Here (f x) (R x) Q) :
    DirOutline rd pid b C Here (p.bind f) P Q :=
  Contract.Outline.bind first rest

theorem catching {p : Proc α} {handler : PyException → Option (Proc α)} {Q : α → Dir → Prop}
    (body : DirOutline rd pid b C Here p P Q)
    (handled : ∀ e, DirOutline rd pid b C Here ((handler e).getD (.raise e)) (fun _ => True) Q) :
    DirOutline rd pid b C Here (p.catching handler) P Q :=
  Contract.Outline.catching body fun e =>
    Contract.Outline.pre (handled e) fun _ _ here => ⟨here, trivial⟩

theorem exists_elim {ι : Type} {p : Proc α} {P : ι → Dir → Prop} {Q : α → Dir → Prop}
    (each : ∀ i, DirOutline rd pid b C Here p (P i) Q) :
    DirOutline rd pid b C Here p (fun d => ∃ i, P i d) Q :=
  (Contract.Outline.exists_elim each).pre fun _ _ ⟨here, i, holds⟩ => ⟨i, here, holds⟩

theorem const_elim {φ : Prop} {p : Proc α} {Q : α → Dir → Prop}
    (given : φ → DirOutline rd pid b C Here p P Q) :
    DirOutline rd pid b C Here p (fun d => φ ∧ P d) Q :=
  (Contract.Outline.const_elim given).pre fun _ _ ⟨here, holds, rest⟩ => ⟨holds, here, rest⟩

include contract in
/-- An operation that changes nothing, and what its being granted tells. -/
theorem quiet_atomic {op : Op} {φ : Prop} (quiet : quietOp op = true)
    (told : ∀ w, C.inv w → Here w → C.grants op w → φ) :
    Contract.Atomic (machine rd pid) C op (fun w => Here w ∧ P (w.dirs b))
      (fun _ w => Here w ∧ φ ∧ P (w.dirs b)) fun (_ : PyException) w => Here w := by
  have stableHere : C.Stable Here := fun s s' before after moved here =>
    (contract.stable (fun _ => True) s s' before after moved ⟨here, trivial⟩).1
  refine ⟨fun _ => contract.stable fun d => φ ∧ P d, fun _ => stableHere, ?_, ?_, ?_⟩
  · intro w safe ⟨here, _⟩
    refine contract.allowed op w safe here fun b' d same => ?_
    rw [same] at quiet
    cases quiet
  · rintro w c a w' safe ⟨here, holds⟩ granted executed
    have unchanged := quiet_exec quiet executed
    obtain ⟨safe', kept, here'⟩ := contract.quiet w w' safe here unchanged
    exact ⟨safe', kept, ⟨here', told w safe here granted, unchanged.dirs ▸ holds⟩, fun _ _ => here'⟩
  · exact fun _ _ _ _ holds => holds.1

include contract in
/-- Log, read a clock, and go on. -/
theorem quiet {op : Op} (quiet : quietOp op = true) {f : op.Res → Proc α} {Q : α → Dir → Prop}
    (rest : ∀ a, DirOutline rd pid b C Here (f a) P Q) :
    DirOutline rd pid b C Here ((ask op).bind f) P Q :=
  Contract.Outline.ask (quiet_atomic contract quiet fun _ _ _ _ => trivial) (fun _ _ _ here => here)
    fun a => const_elim fun (_ : True) => rest a

include contract in
/-- Log a failure, and go on with what is known of its text. -/
theorem report {message : Str} {f : Unit → Proc α} {Q : α → Dir → Prop}
    (rest : Said message → DirOutline rd pid b C Here (f ()) P Q) :
    DirOutline rd pid b C Here
      ((ask (.log .error ("Batch " ++ b ++ " FAILED: " ++ shown message))).bind f) P Q :=
  Contract.Outline.ask (quiet_atomic contract rfl fun w => contract.said w message)
    (fun _ _ _ here => here) fun _ => const_elim rest

/-- What one directory operation of a job is shown to do. -/
def Does (rt : Runtime) (Granted : Dir → Text → Prop) (Said : Str → Prop) (rd : RayData)
    (b : String) (op : DirOp) (P : Dir → Prop) (D : op.Res → Dir → Prop) : Prop :=
  ∀ d c a d', P d →
    (∀ name files content, op = .promote name → d.staging = some files →
      files.lookup name = some content → Granted d content) →
    op.exec rd c d = some (a, d') → (d' = d ∨ DirStep rt Granted Said b d d') ∧ D a d'

include contract in
theorem dir_atomic {op : DirOp} {D : op.Res → Dir → Prop} (does : Does rt Granted Said rd b op P D) :
    Contract.Atomic (machine rd pid) C (.dir b op) (fun w => Here w ∧ P (w.dirs b))
      (fun a w => Here w ∧ D a (w.dirs b)) fun (_ : PyException) w => Here w := by
  have stableHere : C.Stable Here := fun s s' before after moved here =>
    (contract.stable (fun _ => True) s s' before after moved ⟨here, trivial⟩).1
  refine ⟨fun a => contract.stable (D a), fun _ => stableHere, ?_, ?_, ?_⟩
  · intro w safe ⟨here, _⟩
    exact contract.allowed _ w safe here fun b' d same => by cases same; rfl
  · rintro w c a w' safe ⟨here, holds⟩ granted executed
    obtain ⟨d', performed, rfl⟩ := dir_exec rd pid executed
    have promotable : ∀ name files content, op = .promote name → (w.dirs b).staging = some files →
        files.lookup name = some content → Granted (w.dirs b) content := by
      rintro name files content rfl staged found
      exact contract.granted w name files content safe here granted staged found
    obtain ⟨moved, answer⟩ := does _ c a d' holds promotable performed
    have step : C.inv (w.setDir b d') ∧ C.guar w (w.setDir b d') ∧ Here (w.setDir b d') := by
      rcases moved with rfl | moved
      · have unchanged : Quiet w (w.setDir b (w.dirs b)) := by
          rw [World.setDir_self]
          exact ⟨rfl, rfl, rfl, rfl, rfl⟩
        exact contract.quiet w _ safe here unchanged
      · exact contract.move w d' safe here moved
    obtain ⟨safe', kept, here'⟩ := step
    exact ⟨safe', kept, ⟨here', by simpa using answer⟩, fun _ _ => here'⟩
  · exact fun _ _ _ _ holds => holds.1

include contract in
/-- One directory operation, then the rest. -/
theorem dir (op : DirOp) (D : op.Res → Dir → Prop) (does : Does rt Granted Said rd b op P D)
    {f : op.Res → Proc α} {Q : α → Dir → Prop}
    (rest : ∀ a, DirOutline rd pid b C Here (f a) (D a) Q) :
    DirOutline rd pid b C Here ((ask (.dir b op)).bind f) P Q :=
  Contract.Outline.ask (dir_atomic contract does) (fun _ _ _ here => here) rest

include contract in
/-- One directory operation and nothing after it. -/
theorem last {op : DirOp} {D : op.Res → Dir → Prop} (does : Does rt Granted Said rd b op P D) :
    DirOutline rd pid b C Here (ask (.dir b op)) P D :=
  Contract.Outline.only (dir_atomic contract does) (fun _ _ _ here => here) fun _ _ _ holds => holds

/-- A loop over pieces of text: the assertion speaks of what was written so far. -/
theorem pieces {text : Text} {body : Char → Proc Unit} {I : Text → Text → Dir → Prop}
    (each : ∀ written c rest, written ++ c :: rest = text →
      DirOutline rd pid b C Here (body c) (I written (c :: rest))
        fun _ => I (written ++ [c]) rest) :
    DirOutline rd pid b C Here (Program.forEach text body) (I [] text) fun _ => I text [] := by
  have loop : ∀ rest written, written ++ rest = text →
      DirOutline rd pid b C Here (Program.forEach rest body) (I written rest) fun _ => I text [] := by
    intro rest
    induction rest with
    | nil =>
        intro written whole
        rw [List.append_nil] at whole
        exact ret fun d holds => whole ▸ holds
    | cons c rest ih =>
        intro written whole
        exact bind (each written c rest whole) fun _ => ih (written ++ [c]) (by simpa using whole)
  exact loop text [] rfl

/-- A loop whose body keeps an assertion. -/
theorem loop {xs : List β} {body : β → Proc Unit}
    (each : ∀ x, DirOutline rd pid b C Here (body x) P fun _ => P) :
    DirOutline rd pid b C Here (Program.forEach xs body) P fun _ => P :=
  Contract.Outline.forEach (I := fun _ w => Here w ∧ P (w.dirs b)) (fun x _ => each x) xs

end DirOutline

/-! ## What a normal return leaves -/

/-- The file that Ray added to the staged files. -/
structure Written (rd : RayData) (plan : Plan) (files : List (String × Text)) (name : String)
    (content : Text) : Prop where
  allowed : rd.may_write plan name content = true
  json : isJson name = true
  fresh : name ∉ files.map (·.1)

/-- The staged file that is promoted: the first `*.json` name. -/
structure Chosen (files : List (String × Text)) (first : String) (result : Text) : Prop where
  json : isJson first = true
  least : ∀ name ∈ files.map (·.1), isJson name = true → first ≤ name
  content : files.lookup first = some result

/-- What happened in a run that returned. -/
structure Outcome where
  text : Text
  rows : List InputRow
  name : String
  content : Text
  first : String
  result : Text
  finished_at : Json.Float

structure Finished (rt : Runtime) (rd : RayData) (Granted : Dir → Text → Prop) (b model : String)
    (max_tokens : Int) (files : List (String × Text)) (o : Outcome) (counts : Counts) (d : Dir) :
    Prop where
  input : d.file .input = some o.text
  read : rd.read_json o.text = some o.rows
  total : counts.total = o.rows.length
  written : Written rd (planOf o.rows model max_tokens) files o.name o.content
  chosen : Chosen (files ++ [(o.name, o.content)]) o.first o.result
  results : d.file .results = some o.result
  granted : ∃ before, Granted before o.result
  tallied : tallyOf rt o.result = .ok (counts.completed, counts.failed)
  success : d.file .success = some (Json.dumps (successRecord b model counts o.finished_at))
  failed : d.file .failed = none
  staging : d.staging = none

/-! ## Staged files -/

theorem filter_fresh {files : List (String × Text)} {name : String}
    (fresh : name ∉ files.map (·.1)) : files.filter (fun file => file.1 ≠ name) = files := by
  rw [List.filter_eq_self]
  intro file mem
  have other : file.1 ≠ name := fun same => fresh (same ▸ List.mem_map_of_mem mem)
  simpa using other

theorem append_fresh {files : List (String × Text)} {name : String}
    (fresh : name ∉ files.map (·.1)) (text chunk : Text) :
    ((files ++ [(name, text)]).map fun file =>
      if file.1 = name then (name, file.2 ++ chunk) else file) = files ++ [(name, text ++ chunk)] := by
  have untouched : (files.map fun file => if file.1 = name then (name, file.2 ++ chunk) else file) =
      files := by
    refine (List.map_congr_left fun file mem => ?_).trans (List.map_id files)
    have other : file.1 ≠ name := fun same => fresh (same ▸ List.mem_map_of_mem mem)
    simp [other]
  rw [List.map_append, untouched]
  simp

theorem sortedJson_first {names : List String} {first : String} {rest : List String}
    (sorted : sortedJson names = first :: rest) :
    isJson first = true ∧ first ∈ names ∧ ∀ name ∈ names, isJson name = true → first ≤ name := by
  have members : ∀ name, name ∈ first :: rest ↔ name ∈ names ∧ isJson name = true := by
    intro name
    rw [← sorted, sortedJson, List.mem_insertionSort, List.mem_filter]
  have ordered : (first :: rest).Pairwise (· ≤ ·) :=
    sorted ▸ List.pairwise_insertionSort (· ≤ ·) (names.filter isJson)
  obtain ⟨inNames, json⟩ := (members first).1 List.mem_cons_self
  refine ⟨json, inNames, ?_⟩
  intro name mem isJsonName
  rcases List.mem_cons.1 ((members name).2 ⟨mem, isJsonName⟩) with rfl | later
  · exact Std.le_refl name
  · exact List.rel_of_pairwise_cons ordered later

/-! ## The outline of `run_batch` -/

section Walk

variable {rt : Runtime} {env : Environ} {Granted : Dir → Text → Prop} {Said : Str → Prop}
variable {b : String} {C : Contract Op World} {Here : World → Prop}
variable (contract : JobContract rt Granted Said b C Here)
variable {rd : RayData} {pid : Nat} {files : List (String × Text)}

/-- An operation that only reads. -/
theorem does_read {op : DirOp} {P : Dir → Prop} {D : op.Res → Prop}
    (reads : ∀ d c a d', P d → op.exec rd c d = some (a, d') → d' = d ∧ D a) :
    DirOutline.Does rt Granted Said rd b op P fun a d => D a ∧ P d := by
  intro d c a d' holds _ executed
  obtain ⟨rfl, answer⟩ := reads d c a d' holds executed
  exact ⟨.inl rfl, answer, holds⟩

include contract in
theorem write_json_outline {plan : Plan} {P : Dir → Prop}
    (framed : ∀ d made staging, P d → P { d with made := made, staging := staging }) :
    DirOutline rd pid b C Here (write_json b plan) (fun d => d.staging = some files ∧ P d)
      fun _ d => ∃ name content, Written rd plan files name content ∧
        d.staging = some (files ++ [(name, content)]) ∧ P d := by
  refine DirOutline.dir contract (.execute plan) (fun (a : String × Text) d =>
    Written rd plan files a.1 a.2 ∧ d.staging = some files ∧ P d) ?_ ?_
  · refine does_read fun d c a d' holds executed => ?_
    cases c with
    | dataset name content =>
        obtain ⟨⟨allowed, json, fresh⟩, same⟩ := Option.ite_none_right_eq_some.1 executed
        cases same
        rw [stagedNames, holds.1] at fresh
        exact ⟨rfl, allowed, json, fresh⟩
    | _ => cases executed
  · rintro ⟨name, content⟩
    refine DirOutline.const_elim fun written => ?_
    have fresh : name ∉ files.map (·.1) := written.fresh
    refine DirOutline.dir contract (.create_staged name)
      (fun _ d => d.staging = some (files ++ [(name, [])]) ∧ P d) ?_ fun _ => ?_
    · rintro d c a d' ⟨staged, holds⟩ - executed
      simp only [DirOp.exec, staged, Option.map_some, filter_fresh fresh] at executed
      cases executed
      exact ⟨.inr (.staging d d.made _ id), rfl, framed d d.made _ holds⟩
    · refine DirOutline.post (DirOutline.pieces
        (I := fun text _ d => d.staging = some (files ++ [(name, text)]) ∧ P d) ?_) ?_
      · intro sofar chunk rest _
        refine DirOutline.last contract ?_
        rintro d c a d' ⟨staged, holds⟩ - executed
        have listed : name ∈ (files ++ [(name, sofar)]).map (·.1) := by simp
        simp only [DirOp.exec, staged, if_pos listed, append_fresh fresh] at executed
        cases executed
        exact ⟨.inr (.staging d d.made _ id), rfl, framed d d.made _ holds⟩
      · exact fun _ d holds => ⟨name, content, written, holds⟩

include contract in
theorem promoteFirst_outline {text : Text} :
    DirOutline rd pid b C Here (promoteFirst env b)
      (fun d => d.staging = some files ∧ d.file .input = some text)
      fun _ d => ∃ first result, (Chosen files first result ∧ ∃ before, Granted before result) ∧
        d.file .results = some result ∧ d.file .input = some text := by
  refine DirOutline.dir contract .glob_staging (fun (names : List String) d =>
    names.Perm (files.map (·.1)) ∧ d.staging = some files ∧ d.file .input = some text) ?_ ?_
  · refine does_read fun d c a d' holds executed => ?_
    cases c with
    | names names =>
        obtain ⟨perm, same⟩ := Option.ite_none_right_eq_some.1 executed
        cases same
        rw [stagedNames, holds.1] at perm
        exact ⟨rfl, List.isPerm_iff.1 perm⟩
    | _ => cases executed
  · intro names
    refine DirOutline.const_elim fun perm => ?_
    cases sorted : sortedJson names with
    | nil => exact DirOutline.raise
    | cons first rest =>
        obtain ⟨json, -, least⟩ := sortedJson_first sorted
        refine DirOutline.last contract ?_
        rintro d c a d' ⟨staged, input⟩ promotable executed
        simp only [DirOp.exec, staged] at executed
        obtain ⟨result, found, same⟩ := Option.map_eq_some_iff.1 executed
        cases same
        have granted := promotable first files result rfl staged found
        refine ⟨.inr (.promote d result _ granted), first, result, ⟨⟨json, ?_, found⟩, d, granted⟩, ?_, ?_⟩
        · exact fun name mem => least name (perm.mem_iff.2 mem)
        · exact Dir.setFile_same d .results (some result)
        · exact (Dir.setFile_other d .results .input (some result) (by decide)).trans input

include contract in
/-- Text written to a marker file, when every prefix of it is a step of the job. -/
theorem write_text_outline {f : FileName} {text : Text} {P : Dir → Prop}
    (framed : ∀ d content, P d → P (d.setFile f content))
    (steps : ∀ d part more, P d → part ++ more = text →
      DirStep rt Granted Said b d (d.setFile f (some part))) :
    DirOutline rd pid b C Here (write_text b f text) P
      fun _ d => d.file f = some text ∧ P d := by
  refine DirOutline.dir contract (.create f) (fun _ d => d.file f = some [] ∧ P d) ?_ fun _ => ?_
  · rintro d c a d' holds - executed
    obtain ⟨-, same⟩ := Option.ite_none_right_eq_some.1 executed
    cases same
    exact ⟨.inr (steps d [] text holds rfl), Dir.setFile_same d f (some []), framed d _ holds⟩
  · refine DirOutline.pieces (I := fun sofar _ d => d.file f = some sofar ∧ P d) ?_
    intro sofar chunk rest whole
    refine DirOutline.last contract ?_
    rintro d c a d' ⟨sofarWritten, holds⟩ - executed
    simp only [DirOp.exec, sofarWritten, Option.map_some] at executed
    cases executed
    refine ⟨.inr (steps d (sofar ++ [chunk]) rest holds (by simpa using whole)), ?_, framed d _ holds⟩
    exact Dir.setFile_same d f (some (sofar ++ [chunk]))

include contract in
theorem unlinkIfPresent_outline {P : Dir → Prop}
    (framed : ∀ d content, P d → P (d.setFile .failed content)) :
    DirOutline rd pid b C Here (unlinkIfPresent b .failed) P
      fun _ d => d.file .failed = none ∧ P d := by
  refine DirOutline.dir contract (.exists .failed)
    (fun (present : Bool) d => present = (d.file .failed).isSome ∧ P d) ?_ ?_
  · rintro d c a d' holds - executed
    cases executed
    exact ⟨.inl rfl, rfl, holds⟩
  · intro (present : Bool)
    cases present with
    | true =>
        refine DirOutline.last contract ?_
        rintro d c a d' ⟨-, holds⟩ - executed
        obtain ⟨content, -, same⟩ := Option.map_eq_some_iff.1 executed
        cases same
        exact ⟨.inr (.dropFailed d), Dir.setFile_same d .failed none, framed d none holds⟩
    | false =>
        refine DirOutline.ret fun d ⟨absent, holds⟩ => ⟨?_, holds⟩
        exact Option.isSome_eq_false_iff.1 absent.symm |> Option.isNone_iff_eq_none.1

include contract in
theorem cleanStaging_outline {P : Dir → Prop}
    (framed : ∀ d staging, P d → P { d with staging := staging }) :
    DirOutline rd pid b C Here (cleanStaging b) P fun _ d => d.staging = none ∧ P d := by
  refine DirOutline.dir contract .glob_staging (fun _ => P) ?_ fun names => ?_
  · refine fun d c a d' holds _ executed => ?_
    cases c with
    | names names =>
        obtain ⟨-, same⟩ := Option.ite_none_right_eq_some.1 executed
        cases same
        exact ⟨.inl rfl, holds⟩
    | _ => cases executed
  · refine DirOutline.bind (DirOutline.loop fun name => DirOutline.last contract ?_) fun _ => ?_
    · rintro d c a d' holds - executed
      simp only [DirOp.exec] at executed
      split at executed
      · obtain ⟨-, same⟩ := Option.ite_none_right_eq_some.1 executed
        cases same
        exact ⟨.inr (.staging d d.made _ id), framed d _ holds⟩
      · cases executed
    · refine DirOutline.last contract ?_
      rintro d c a d' holds - executed
      obtain ⟨-, same⟩ := Option.ite_none_right_eq_some.1 executed
      cases same
      exact ⟨.inr (.staging d d.made none id), rfl, framed d none holds⟩

/-- What holds of the directory once a file was promoted and counted. -/
structure Counted (rt : Runtime) (Granted : Dir → Text → Prop) (text result : Text) (counts : Counts)
    (d : Dir) : Prop where
  input : d.file .input = some text
  results : d.file .results = some result
  granted : ∃ before, Granted before result
  tallied : tallyOf rt result = .ok (counts.completed, counts.failed)

theorem Counted.frame {text result : Text} {counts : Counts} {d d' : Dir}
    (counted : Counted rt Granted text result counts d) (input : d'.file .input = d.file .input)
    (results : d'.file .results = d.file .results) : Counted rt Granted text result counts d' :=
  ⟨input.trans counted.input, results.trans counted.results, counted.granted, counted.tallied⟩

theorem Counted.setFile {text result : Text} {counts : Counts} {d : Dir} {f : FileName}
    (counted : Counted rt Granted text result counts d) (notInput : f ≠ .input)
    (notResults : f ≠ .results) (content : Option Text) :
    Counted rt Granted text result counts (d.setFile f content) :=
  counted.frame (Dir.setFile_other d f .input content notInput.symm)
    (Dir.setFile_other d f .results content notResults.symm)

include contract in
/-- From the promoted file on: the marker, the clean-up, and the counts returned. -/
theorem finish_outline {model : String} {text result : Text} (counts : Counts) :
    DirOutline rd pid b C Here
      ((unlinkIfPresent b .failed).bind fun _ =>
        (writeSuccess b model counts).bind fun _ => (cleanStaging b).bind fun _ => .ret counts)
      (Counted rt Granted text result counts)
      fun returned d => ∃ finished_at, returned = counts ∧
        d.file .success = some (Json.dumps (successRecord b model counts finished_at)) ∧
        d.file .failed = none ∧ d.staging = none ∧ Counted rt Granted text result counts d := by
  refine DirOutline.bind (unlinkIfPresent_outline contract fun d content counted =>
    counted.setFile (by decide) (by decide) content) fun _ => ?_
  refine DirOutline.bind (R := fun _ d => ∃ finished_at : Json.Float,
    d.file .success = some (Json.dumps (successRecord b model counts finished_at)) ∧
    d.file .failed = none ∧ Counted rt Granted text result counts d) ?_ fun _ => ?_
  · refine DirOutline.quiet contract rfl fun (finished_at : Json.Float) => ?_
    refine (write_text_outline contract ?_ ?_).post fun _ d holds => ⟨finished_at, holds⟩
    · rintro d content ⟨noFailure, counted⟩
      exact ⟨(Dir.setFile_other d .success .failed content (by decide)).trans noFailure,
        counted.setFile (by decide) (by decide) content⟩
    · rintro d part more ⟨-, counted⟩ written
      exact .success d result part more model counts finished_at counted.results counted.granted
        counted.tallied written
  · refine DirOutline.exists_elim fun finished_at => ?_
    refine DirOutline.bind (cleanStaging_outline contract ?_) fun _ => ?_
    · rintro d staging ⟨success, noFailure, counted⟩
      exact ⟨success, noFailure, counted.frame rfl rfl⟩
    · refine DirOutline.ret ?_
      rintro d ⟨noStaging, success, noFailure, counted⟩
      exact ⟨finished_at, rfl, success, noFailure, noStaging, counted⟩

include contract in
/-- **The outline of `run_batch`**: what a normal return leaves behind. -/
theorem run_batch_outline {model : String} {max_tokens : Int} {input : Option Text} :
    DirOutline rd pid b C Here (run_batch rt env b model max_tokens)
      (fun d => d.file .input = input ∧ d.staging.getD [] = files)
      fun counts d => ∃ o, input = some o.text ∧
        Finished rt rd Granted b model max_tokens files o counts d := by
  unfold run_batch
  refine DirOutline.dir contract (.exists .input)
    (fun (present : Bool) d => present = input.isSome ∧ d.file .input = input ∧
      d.staging.getD [] = files) ?_ ?_
  · rintro d c a d' ⟨same, staged⟩ - executed
    cases executed
    exact ⟨.inl rfl, by rw [same], same, staged⟩
  intro (present : Bool)
  cases present with
  | false => exact DirOutline.raise
  | true =>
      refine DirOutline.const_elim fun isPresent => ?_
      obtain ⟨text, rfl⟩ := Option.isSome_iff_exists.1 isPresent.symm
      refine DirOutline.quiet contract rfl fun _ => DirOutline.quiet contract rfl fun _ => ?_
      refine DirOutline.dir contract .read_json (fun (rows : List InputRow) d =>
        rd.read_json text = some rows ∧ d.file .input = some text ∧ d.staging.getD [] = files) ?_ ?_
      · refine does_read fun d c a d' holds executed => ?_
        obtain ⟨rows, read, same⟩ := Option.map_eq_some_iff.1 executed
        cases same
        rw [holds.1] at read
        exact ⟨rfl, read⟩
      intro (rows : List InputRow)
      refine DirOutline.const_elim fun read => ?_
      refine DirOutline.quiet contract rfl fun _ => DirOutline.quiet contract rfl fun _ => ?_
      refine DirOutline.dir contract .mkdir_staging
        (fun _ d => d.staging = some files ∧ d.file .input = some text) ?_ fun _ => ?_
      · rintro d c a d' ⟨inputSame, staged⟩ - executed
        cases executed
        exact ⟨.inr (.staging d true _ fun _ => rfl), by rw [staged], inputSame⟩
      refine DirOutline.quiet contract rfl fun _ => ?_
      refine DirOutline.bind (write_json_outline contract (P := fun d => d.file .input = some text)
        fun d made staging holds => holds) fun _ => ?_
      refine DirOutline.exists_elim fun name => DirOutline.exists_elim fun content => ?_
      refine DirOutline.const_elim fun written => ?_
      refine DirOutline.bind (promoteFirst_outline contract) fun _ => ?_
      refine DirOutline.exists_elim fun first => DirOutline.exists_elim fun result => ?_
      refine DirOutline.const_elim fun ⟨chosen, granted⟩ => ?_
      refine DirOutline.dir contract (.read_text .results) (fun (answer : Text) d =>
        answer = result ∧ d.file .results = some result ∧ d.file .input = some text) ?_ ?_
      · refine does_read fun d c a d' holds executed => ?_
        obtain ⟨answer, found, same⟩ := Option.map_eq_some_iff.1 executed
        cases same
        exact ⟨rfl, (Option.some.inj (holds.1.symm.trans found)).symm⟩
      intro (answer : Text)
      refine DirOutline.const_elim fun isResult => ?_
      subst isResult
      cases tallied : tallyOf rt answer with
      | error e => exact DirOutline.raise
      | ok pair =>
          obtain ⟨completed, failed⟩ := pair
          refine DirOutline.quiet contract rfl fun _ => ?_
          refine ((finish_outline contract ⟨rows.length, completed, failed⟩).post ?_).pre
            fun d ⟨resultsAre, inputIs⟩ => ⟨inputIs, resultsAre, granted, tallied⟩
          rintro counts d ⟨finished_at, rfl, success, noFailure, noStaging, counted⟩
          exact ⟨⟨text, rows, name, content, first, answer, finished_at⟩, rfl, counted.input, read,
            rfl, written, chosen, counted.results, granted, tallied, success, noFailure, noStaging⟩

include contract in
/-- The failure marker, and the exit status 1. -/
theorem writeFailure_outline (exc : PyException) {P : Dir → Prop}
    (remade : ∀ d, P d → P { d with made := true })
    (framed : ∀ d content, P d → P (d.setFile .failed content)) :
    DirOutline rd pid b C Here (writeFailure b exc) P
      fun code d => code = 1 ∧ (d.file .failed).isSome = true ∧ P d := by
  unfold writeFailure
  refine DirOutline.report contract fun said => ?_
  refine DirOutline.quiet contract rfl fun _ => DirOutline.quiet contract rfl fun _ => ?_
  refine DirOutline.dir contract .mkdir (fun _ => P) ?_ fun _ => ?_
  · rintro d c a d' holds - executed
    cases executed
    exact ⟨.inr (.staging d true d.staging fun _ => rfl), remade d holds⟩
  refine DirOutline.quiet contract rfl fun (traceback : Str) => ?_
  refine DirOutline.quiet contract rfl fun (failed_at : Json.Float) => ?_
  refine DirOutline.bind (write_text_outline contract framed ?_) fun _ => DirOutline.ret ?_
  · rintro d part more - written
    exact .failed d part more exc.message traceback failed_at said written
  · rintro d ⟨marked, holds⟩
    refine ⟨rfl, ?_, holds⟩
    rw [marked]
    rfl

include contract in
/-- **The outline of the body**: it returns 0, with everything in place. -/
theorem tryBody_outline {model : String} {max_tokens : Int} {input : Option Text} :
    DirOutline rd pid b C Here (tryBody rt env ⟨b, model, max_tokens⟩)
      (fun d => d.file .input = input ∧ d.staging.getD [] = files)
      fun code d => code = 0 ∧ ∃ o counts, input = some o.text ∧
        Finished rt rd Granted b model max_tokens files o counts d := by
  refine DirOutline.quiet contract rfl fun _ => ?_
  refine DirOutline.bind (run_batch_outline contract) fun counts => ?_
  refine DirOutline.quiet contract rfl fun _ => ?_
  exact DirOutline.ret fun d ⟨o, finished⟩ => ⟨rfl, o, counts, finished⟩

include contract in
/-- **The outline of a job**: the exit status 0 comes with everything in place. -/
theorem runJob_outline {model : String} {max_tokens : Int} {input : Option Text} :
    DirOutline rd pid b C Here (runJob rt env ⟨b, model, max_tokens⟩)
      (fun d => d.file .input = input ∧ d.staging.getD [] = files)
      fun code d => code = 0 →
        ∃ o counts, input = some o.text ∧
          Finished rt rd Granted b model max_tokens files o counts d := by
  rw [runJob]
  refine DirOutline.catching ((tryBody_outline contract).post fun code d finished _ => finished.2) ?_
  intro exc
  by_cases caught : exc.isinstance .exception = true
  · rw [if_pos caught]
    exact (writeFailure_outline contract exc (fun _ _ => trivial) fun _ _ _ => trivial).post
      fun code d failed isZero => by omega
  · rw [if_neg caught]
    exact DirOutline.raise

end Walk

end KubeRayBatch.Worker
