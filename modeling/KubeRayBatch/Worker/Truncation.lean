/-
# Worker.Truncation -- the end of the sequence that is generated from

The chat template puts a prompt between a system turn and the marker after which the
assistant is to go on.  The tokenizer is asked to keep 2048 tokens and keeps the first
ones, so a long prompt loses the marker before it loses anything of itself, and the API
admits prompts of 32000 characters.

* `attempt_generates`: `modelInput` is what a prompt passes to `generate`;
* `marker_kept_iff`: what is passed ends with the marker exactly when the whole encoding has
  at most 2048 tokens, or when its first 2048 happen to spell the marker by themselves;
* `marker_cut`: a prompt that the API admits and whose marker is gone.
-/
import KubeRayBatch.Worker.Answers

namespace KubeRayBatch.Worker

open Theory Cluster Api

set_option autoImplicit false

/-- The tokens of a prompt, as they are passed to `generate`. -/
def modelInput (actor : Actor) (prompt : String) : Except PyException (List Int) := do
  let text ← actor.apply_chat_template prompt
  let ids ← actor.encode text
  pure (ids.take 2048)

section Passes

variable {actor : Actor} {prompt : String} {ids : List Int} {max_tokens : Int}

theorem modelInput_ok (input : modelInput actor prompt = .ok ids) :
    ∃ text whole, actor.apply_chat_template prompt = .ok text ∧ actor.encode text = .ok whole ∧
      ids = whole.take 2048 := by
  unfold modelInput at input
  cases formatted : actor.apply_chat_template prompt with
  | error exc => rw [formatted] at input; cases input
  | ok text =>
      cases encoded : actor.encode text with
      | error exc =>
          rw [formatted] at input
          simp only [bind, Except.bind, encoded] at input
          cases input
      | ok whole =>
          rw [formatted] at input
          simp only [bind, Except.bind, encoded] at input
          cases input
          exact ⟨text, whole, rfl, encoded, rfl⟩

/-- **Only these tokens** are passed to `generate`: another model that goes on from them in
the same way makes no difference. -/
theorem attempt_generates (input : modelInput actor prompt = .ok ids)
    {generate : List Int → Int → Except PyException (List Int)}
    (same : generate ids max_tokens = actor.generate ids max_tokens) (idx : Nat) (cols : Columns) :
    attempt { actor with generate := generate } max_tokens idx prompt cols =
      attempt actor max_tokens idx prompt cols := by
  obtain ⟨text, whole, formatted, encoded, rfl⟩ := modelInput_ok input
  unfold attempt
  simp only [formatted, encoded, same]

end Passes

/-! ## The marker -/

/-- A tokenizer under the chat template: what comes before the prompt, the tokens of the
prompt, and the marker after which the assistant goes on. -/
structure ChatTokenizer where
  before : List Int
  tokens : String → List Int
  marker : List Int
  nonempty : marker ≠ []
  bounded : ∀ prompt, (tokens prompt).length ≤ prompt.length

namespace ChatTokenizer

variable (t : ChatTokenizer)

def encoding (prompt : String) : List Int := t.before ++ t.tokens prompt ++ t.marker

/-- The actor encodes the formatted text of every prompt in this way. -/
def Encodes (actor : Actor) : Prop :=
  ∀ prompt, ∃ text, actor.apply_chat_template prompt = .ok text ∧
    actor.encode text = .ok (t.encoding prompt)

/-- The whole encoding is kept. -/
def Fits (prompt : String) : Prop :=
  t.before.length + (t.tokens prompt).length + t.marker.length ≤ 2048

/-- More tokens than are kept, of which the kept ones end by chance like the marker. -/
def SpelledAtCut (prompt : String) : Prop :=
  ∃ front rest, t.encoding prompt = front ++ t.marker ++ rest ∧ rest ≠ [] ∧
    (front ++ t.marker).length = 2048

instance (prompt : String) : Decidable (t.Fits prompt) := by unfold Fits; infer_instance

theorem length_encoding (prompt : String) :
    (t.encoding prompt).length = t.before.length + (t.tokens prompt).length + t.marker.length := by
  unfold encoding
  rw [List.length_append, List.length_append]

theorem fits_iff (prompt : String) : t.Fits prompt ↔ (t.encoding prompt).length ≤ 2048 := by
  rw [t.length_encoding prompt]
  exact Iff.rfl

theorem modelInput_encoding {t : ChatTokenizer} {actor : Actor} (encodes : t.Encodes actor)
    (prompt : String) : modelInput actor prompt = .ok ((t.encoding prompt).take 2048) := by
  obtain ⟨text, formatted, encoded⟩ := encodes prompt
  unfold modelInput
  rw [formatted]
  simp only [bind, Except.bind, encoded]
  rfl

/-- Nothing is cut off, and the marker stands behind the prompt. -/
theorem Fits.take {t : ChatTokenizer} {prompt : String} (fits : t.Fits prompt) :
    (t.encoding prompt).take 2048 = t.before ++ t.tokens prompt ++ t.marker :=
  List.take_of_length_le ((t.fits_iff prompt).1 fits)

/-- A list that is cut ends with a text of its own only if the text stands before the cut. -/
theorem suffix_take_iff {all text : List Int} {n : Nat} (longer : n < all.length) :
    text <:+ all.take n ↔
      ∃ front rest, all = front ++ text ++ rest ∧ rest ≠ [] ∧ (front ++ text).length = n := by
  constructor
  · rintro ⟨front, whole⟩
    refine ⟨front, all.drop n, ?_, ?_, ?_⟩
    · rw [whole, List.take_append_drop]
    · intro nothing
      have short := List.drop_eq_nil_iff.1 nothing
      omega
    · rw [whole, List.length_take]
      omega
  · rintro ⟨front, rest, rfl, -, rfl⟩
    rw [List.take_left]
    exact List.suffix_append front text

/-- **The kept tokens end with the marker** exactly in these two cases. -/
theorem marker_suffix_iff (prompt : String) :
    t.marker <:+ (t.encoding prompt).take 2048 ↔ t.Fits prompt ∨ t.SpelledAtCut prompt := by
  by_cases fits : t.Fits prompt
  · refine iff_of_true ?_ (.inl fits)
    rw [fits.take]
    exact List.suffix_append _ t.marker
  · have longer : 2048 < (t.encoding prompt).length := by
      rw [t.fits_iff prompt] at fits
      omega
    rw [suffix_take_iff longer]
    constructor
    · exact fun spelled => .inr spelled
    · intro either
      rcases either with kept | spelled
      · exact absurd kept fits
      · exact spelled

end ChatTokenizer

/-- **key theorem.** A prompt passes the first 2048 tokens of its encoding to `generate`, and
nothing else depends on what `generate` is.  They end with the marker exactly when the whole
encoding has at most 2048 tokens, and then the marker stands behind the tokens of the prompt,
or when the kept ones spell it by chance. -/
theorem marker_kept_iff {actor : Actor} {t : ChatTokenizer} (encodes : t.Encodes actor)
    (item : BatchInputItem) :
    ∃ ids, modelInput actor item.prompt = .ok ids ∧
      (t.marker <:+ ids ↔ t.Fits item.prompt ∨ t.SpelledAtCut item.prompt) ∧
      (t.Fits item.prompt → ids = t.before ++ t.tokens item.prompt ++ t.marker) ∧
      ∀ (generate : List Int → Int → Except PyException (List Int)) (max_tokens : Int),
        generate ids max_tokens = actor.generate ids max_tokens → ∀ (idx : Nat) (cols : Columns),
        attempt { actor with generate := generate } max_tokens idx item.prompt cols =
          attempt actor max_tokens idx item.prompt cols := by
  have input := ChatTokenizer.modelInput_encoding encodes item.prompt
  exact ⟨_, input, t.marker_suffix_iff item.prompt, fun fits => fits.take,
    fun _ _ same idx cols => attempt_generates input same idx cols⟩

/-- One token for each character, between a start token and two tokens of marker. -/
def characterTokens : ChatTokenizer where
  before := [1]
  tokens := fun prompt => prompt.toList.map fun c => (c.toNat : Int)
  marker := [2, 3]
  nonempty := by decide
  bounded := fun prompt => by rw [List.length_map, String.length_toList]

def characterActor : Actor where
  apply_chat_template := .ok
  encode := fun text => .ok (characterTokens.encoding text)
  generate := fun ids _ => .ok ids
  decode := fun _ => .ok ""
  eos_token_id := 0

theorem characterActor_encodes : characterTokens.Encodes characterActor := fun prompt =>
  ⟨prompt, rfl, rfl⟩

/-- The prompt `hi` is passed whole. -/
theorem marker_kept_hi : ∃ ids, modelInput characterActor hi.prompt = .ok ids ∧
    characterTokens.marker <:+ ids := by
  obtain ⟨ids, input, kept, -⟩ := marker_kept_iff characterActor_encodes hi
  exact ⟨ids, input, kept.2 (.inl (by decide))⟩

theorem length_repeated (n : Nat) : (String.ofList (List.replicate n 'a')).length = n := by
  rw [← String.length_toList, String.toList_ofList, List.length_replicate]

/-- A prompt of 3000 characters. -/
def longItem : BatchInputItem where
  prompt := String.ofList (List.replicate 3000 'a')
  min_length := by rw [length_repeated]; omega
  max_length := by rw [length_repeated]; omega

/-- The encoding of a long prompt of one letter, cut. -/
theorem take_repeated {n k : Nat} (long : k ≤ n) :
    (characterTokens.encoding (String.ofList (List.replicate n 'a'))).take (k + 1) =
      1 :: List.replicate k 97 := by
  have encoded : characterTokens.encoding (String.ofList (List.replicate n 'a')) =
      1 :: (List.replicate n 97 ++ [2, 3]) := by
    simp only [ChatTokenizer.encoding, characterTokens, String.toList_ofList, List.map_replicate]
    rfl
  have inside : k - (List.replicate n (97 : Int)).length = 0 := by
    rw [List.length_replicate]
    omega
  rw [encoded, List.take_succ_cons, List.take_append, inside, List.take_zero, List.append_nil,
    List.take_replicate, Nat.min_eq_left long]

/-- What is generated from ends in the middle of the prompt. -/
theorem marker_cut :
    ¬ ∀ (actor : Actor) (t : ChatTokenizer) (item : BatchInputItem) (ids : List Int),
      t.Encodes actor → modelInput actor item.prompt = .ok ids → t.marker <:+ ids := by
  intro ends
  have passed := ChatTokenizer.modelInput_encoding characterActor_encodes longItem.prompt
  have suffix := ends characterActor characterTokens longItem _ characterActor_encodes passed
  have cut : (characterTokens.encoding longItem.prompt).take 2048 = 1 :: List.replicate 2047 97 :=
    take_repeated (by omega)
  rw [cut] at suffix
  have last : (3 : Int) ∈ 1 :: List.replicate 2047 (97 : Int) :=
    suffix.subset (List.mem_cons_of_mem 2 List.mem_cons_self)
  rcases List.mem_cons.1 last with first | repeated
  · exact absurd first (by decide)
  · exact absurd (List.eq_of_mem_replicate repeated) (by decide)

end KubeRayBatch.Worker
