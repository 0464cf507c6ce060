/-
# Worker.Arguments -- from the entrypoint string to the parsed arguments

The API formats a command line, the job supervisor splits it into words, and
`argparse` reads the words.  The parser is the one `main` builds: `-h`,
`--batch-id` (required), `--model` and `--max-tokens`, abbreviations allowed.  A
word is classified before anything is consumed, and a word that looks like an
option is never the value of another option.

* `argv_entrypoint`: the words of a submitted job are the six that were
  formatted, whatever the request;
* `arguments_survive_iff`: among the admitted model names, exactly those that do not start
  with `-`, the single `-` and the negative numbers are read as a value.
-/
import KubeRayBatch.Api.Batches
import Mathlib.Data.List.TakeWhile

namespace KubeRayBatch.Worker

open Theory Api Cluster

set_option autoImplicit false

/-! ## The shell -/

/-- Characters that mean nothing to the shell inside a word. -/
def plain (c : Char) : Bool := c.isAlphanum || c == '.' || c == '_' || c == '-' || c == '/' || c == ':'

/-- Words between blanks. -/
def splitBlanks : Text → List Text
  | [] => []
  | c :: cs =>
      if c = ' ' then splitBlanks cs
      else
        match cs with
        | [] => [[c]]
        | d :: _ =>
            if d = ' ' then [c] :: splitBlanks cs
            else
              match splitBlanks cs with
              | [] => [[c]]
              | word :: words => (c :: word) :: words

/-- The words of a command line without quoting, expansion or redirection; `none`
for any other command line. -/
def shellWords (command : Text) : Option (List Text) :=
  if command.all fun c => plain c || c == ' ' then some (splitBlanks command) else none

/-- `sys.argv[1:]` of a job: the words after the interpreter and the script. -/
def jobArgv (entrypoint : String) : Option (List Text) :=
  (shellWords entrypoint.toList).map fun words => words.drop 2

/-! ## argparse -/

/-- The actions of `main`'s parser. -/
inductive Action where
  | help
  | batch_id
  | model
  | max_tokens
  deriving DecidableEq, Repr

def optionStringActions : List (Text × Action) :=
  [("-h".toList, .help),
   ("--help".toList, .help),
   ("--batch-id".toList, .batch_id),
   ("--model".toList, .model),
   ("--max-tokens".toList, .max_tokens)]

/-- The regular expression `^-\d+$|^-\d*\.\d+$`. -/
def negativeNumber : Text → Bool
  | '-' :: rest =>
      match (Json.spanDigits rest).2 with
      | [] => !(Json.spanDigits rest).1.isEmpty
      | '.' :: frac => !frac.isEmpty && frac.all Char.isDigit
      | _ => false
  | _ => false

/-- What a word that looks like an option stands for: its action if one is known,
its option string, and the text after `=` (or after a short flag). -/
structure OptionTuple where
  action : Option Action
  option_string : Text
  explicit_arg : Option Text
  deriving DecidableEq, Repr

/-- `split('=', 1)` -/
def splitEquals (word : Text) : Text × Option Text :=
  match word.dropWhile (· ≠ '=') with
  | [] => (word, none)
  | _ :: rest => (word.takeWhile (· ≠ '='), some rest)

/-- The known options a word abbreviates. -/
def getOptionTuples (word : Text) : List OptionTuple :=
  match word with
  | '-' :: '-' :: _ =>
      let (start, explicit_arg) := splitEquals word
      (optionStringActions.filter fun (option_string, _) => start.isPrefixOf option_string).map
        fun (option_string, action) => ⟨some action, option_string, explicit_arg⟩
  | _ =>
      optionStringActions.filterMap fun (option_string, action) =>
        if option_string = word.take 2 then some ⟨some action, option_string, some (word.drop 2)⟩
        else if word.isPrefixOf option_string then some ⟨some action, option_string, none⟩
        else none

/-- The exit status of an error of the parser, and of `--help`. -/
def usageError : Nat := 2
def helpExit : Nat := 0

/-- `_parse_optional`: `none` for a word that is not an option. -/
def parseOptional (word : Text) : Except Nat (Option OptionTuple) :=
  match word with
  | [] => .ok none
  | c :: rest =>
      if c ≠ '-' then .ok none
      else
        match optionStringActions.lookup word with
        | some action => .ok (some ⟨some action, word, none⟩)
        | none =>
            if rest = [] then .ok none
            else
              match (splitEquals word).2, optionStringActions.lookup (splitEquals word).1 with
              | some explicit_arg, some action =>
                  .ok (some ⟨some action, (splitEquals word).1, some explicit_arg⟩)
              | _, _ =>
                  match getOptionTuples word with
                  | _ :: _ :: _ => .error usageError
                  | [option] => .ok (some option)
                  | [] =>
                      if negativeNumber word then .ok none
                      else if ' ' ∈ word then .ok none
                      else .ok (some ⟨none, word, none⟩)

/-- A classified word: an argument, the first `--`, or an option. -/
inductive WordClass where
  | arg
  | separator
  | option (option : OptionTuple)
  deriving DecidableEq, Repr

/-- Classify the words; everything after `--` is an argument. -/
def classify : List Text → Except Nat (List (Text × WordClass))
  | [] => .ok []
  | word :: words =>
      if word = ['-', '-'] then
        .ok ((word, .separator) :: words.map fun w => (w, .arg))
      else
        match parseOptional word with
        | .error code => .error code
        | .ok none => (classify words).map ((word, .arg) :: ·)
        | .ok (some option) => (classify words).map ((word, .option option) :: ·)

/-- The attributes set so far, and the words nothing consumed. -/
structure Parsed where
  batch_id : Option Text
  model : Option Text
  max_tokens : Option Int
  extras : List Text
  deriving DecidableEq, Repr

/-- Store a value; `--max-tokens` converts it. -/
def store (action : Action) (value : Text) (parsed : Parsed) : Except Nat Parsed :=
  match action with
  | .help => .error helpExit
  | .batch_id => .ok { parsed with batch_id := some value }
  | .model => .ok { parsed with model := some value }
  | .max_tokens =>
      match intOfStr value with
      | some n => .ok { parsed with max_tokens := some n }
      | none => .error usageError

/-- Consume the classified words from left to right. -/
def consume : List (Text × WordClass) → Parsed → Except Nat Parsed
  | [], parsed => .ok parsed
  | (word, .arg) :: rest, parsed => consume rest { parsed with extras := parsed.extras ++ [word] }
  | (word, .separator) :: rest, parsed =>
      consume rest { parsed with extras := parsed.extras ++ [word] }
  | (word, .option option) :: rest, parsed =>
      match option.action, option.explicit_arg with
      | none, _ => consume rest { parsed with extras := parsed.extras ++ [word] }
      | some .help, none => .error helpExit
      | some .help, some flags =>
          -- further single-dash flags; the only one is `-h` itself
          if option.option_string = "-h".toList ∧ flags ≠ [] ∧ flags.all (· == 'h') then
            .error helpExit
          else .error usageError
      | some action, some value =>
          match store action value parsed with
          | .ok parsed => consume rest parsed
          | .error code => .error code
      | some action, none =>
          match rest with
          | (value, .arg) :: rest =>
              match store action value parsed with
              | .ok parsed => consume rest parsed
              | .error code => .error code
          | _ => .error usageError

/-- The result of `parser.parse_args()`. -/
structure Arguments where
  batch_id : String
  model : String
  max_tokens : Int
  deriving DecidableEq, Repr

/-- `parse_args`; an error is the exit status of the process. -/
def parse_args (DEFAULT_MODEL : String) (words : List Text) : Except Nat Arguments := do
  let classified ← classify words
  let parsed ← consume classified ⟨none, none, none, []⟩
  match parsed.batch_id with
  | none => .error usageError
  | some batch_id =>
      if parsed.extras ≠ [] then .error usageError
      else
        .ok ⟨String.ofList batch_id, (parsed.model.map String.ofList).getD DEFAULT_MODEL,
          parsed.max_tokens.getD 256⟩

/-! ## The words of a submitted job -/

theorem splitBlanks_last {word : Text} (nonempty : word ≠ []) (noBlank : ' ' ∉ word) :
    splitBlanks word = [word] := by
  induction word with
  | nil => exact absurd rfl nonempty
  | cons c word ih =>
      have first : c ≠ ' ' := fun same => noBlank (same ▸ List.mem_cons_self)
      cases word with
      | nil => simp [splitBlanks, first]
      | cons d word =>
          have second : d ≠ ' ' := fun same => noBlank (by simp [same])
          have tail := ih (by simp) fun mem => noBlank (List.mem_cons_of_mem c mem)
          rw [splitBlanks]
          simp [first, second, tail]

theorem splitBlanks_word {word : Text} (nonempty : word ≠ []) (noBlank : ' ' ∉ word) (rest : Text) :
    splitBlanks (word ++ ' ' :: rest) = word :: splitBlanks rest := by
  have blank : splitBlanks (' ' :: rest) = splitBlanks rest := by simp [splitBlanks]
  induction word with
  | nil => exact absurd rfl nonempty
  | cons c word ih =>
      have first : c ≠ ' ' := fun same => noBlank (same ▸ List.mem_cons_self)
      cases word with
      | nil =>
          rw [List.cons_append, List.nil_append, splitBlanks]
          simp [first, blank]
      | cons d word =>
          have second : d ≠ ' ' := fun same => noBlank (by simp [same])
          have tail := ih (by simp) fun mem => noBlank (List.mem_cons_of_mem c mem)
          rw [List.cons_append, List.cons_append, splitBlanks]
          simp only [List.cons_append] at tail
          simp [first, second, tail]

theorem plain_of_modelChar {c : Char} (admitted : modelChar c = true) : plain c = true := by
  have letters : c.isAlphanum = (c.isUpper || c.isLower || c.isDigit) := rfl
  simp only [modelChar, Bool.or_eq_true, Bool.and_eq_true, decide_eq_true_eq] at admitted
  rcases admitted with (((((((upper | lower) | digit) | dot) | underscore) | dash) | slash) | colon)
  · have isUpper : c.isUpper = true := decide_eq_true upper
    simp [plain, letters, isUpper]
  · have isLower : c.isLower = true :=
      Bool.and_eq_true_iff.2 ⟨decide_eq_true lower.1, decide_eq_true lower.2⟩
    simp [plain, letters, isLower]
  · have isDigit : c.isDigit = true :=
      Bool.and_eq_true_iff.2 ⟨decide_eq_true digit.1, decide_eq_true digit.2⟩
    simp [plain, letters, isDigit]
  · simp [plain, dot]
  · simp [plain, underscore]
  · simp [plain, dash]
  · simp [plain, slash]
  · simp [plain, colon]

theorem plain_newBatchId (u : Ulid) : ∀ c ∈ (newBatchId u).toList, plain c = true := by
  intro c mem
  simp only [newBatchId, String.toList_append, List.mem_append] at mem
  rcases mem with label | ulid
  · have letters : "batch_".toList.all plain = true := rfl
    exact List.all_eq_true.1 letters c label
  · have letters : "0123456789ABCDEFGHJKMNPQRSTVWXYZ".toList.all plain = true := rfl
    exact List.all_eq_true.1 letters c (u.crockford c ulid)

theorem plain_digits (n : Nat) : ∀ c ∈ Decimal.chars n, plain c = true := by
  intro c mem
  have letters : c.isAlphanum = (c.isAlpha || c.isDigit) := rfl
  simp [plain, letters, Decimal.chars_isDigit mem]

theorem not_blank_of_plain {word : Text} (plainWord : ∀ c ∈ word, plain c = true) : ' ' ∉ word :=
  fun mem => absurd (plainWord ' ' mem) (by decide)

theorem model_nonempty (request : CreateBatchRequest) : request.model.toList ≠ [] := by
  have long := request.model_min_length
  intro empty
  rw [← String.length_toList, empty] at long
  exact absurd long (by decide)

/-- The characters of an entrypoint, word by word. -/
theorem entrypoint_spelled (u : Ulid) (request : CreateBatchRequest) :
    (entrypointOf (newBatchId u) request.model request.max_tokens).toList =
      "python".toList ++ ' ' :: ("/app/jobs/batch_infer.py".toList ++ ' ' ::
        ("--batch-id".toList ++ ' ' :: ((newBatchId u).toList ++ ' ' ::
          ("--model".toList ++ ' ' :: (request.model.toList ++ ' ' ::
            ("--max-tokens".toList ++ ' ' :: (toString request.max_tokens).toList)))))) := by
  have command : "python /app/jobs/batch_infer.py ".toList =
      "python".toList ++ ' ' :: ("/app/jobs/batch_infer.py".toList ++ [' ']) := by decide
  have option1 : "--batch-id ".toList = "--batch-id".toList ++ [' '] := by decide
  have option2 : "--model ".toList = "--model".toList ++ [' '] := by decide
  have option3 : "--max-tokens ".toList = "--max-tokens".toList ++ [' '] := by decide
  have blank : " ".toList = [' '] := by decide
  unfold entrypointOf
  iterate 8 rw [String.toList_append]
  rw [command, option1, option2, option3, blank]
  simp only [List.append_assoc, List.cons_append, List.nil_append]

/-- **The words of a job** are the ones that were formatted. -/
theorem argv_entrypoint (u : Ulid) (request : CreateBatchRequest) :
    jobArgv (entrypointOf (newBatchId u) request.model request.max_tokens) =
      some ["--batch-id".toList, (newBatchId u).toList, "--model".toList, request.model.toList,
        "--max-tokens".toList, (toString request.max_tokens).toList] := by
  have idPlain := plain_newBatchId u
  have modelPlain : ∀ c ∈ request.model.toList, plain c = true := fun c mem =>
    plain_of_modelChar (request.model_pattern c mem)
  have tokens : (toString request.max_tokens).toList = Decimal.chars request.max_tokens :=
    Decimal.toList_toString _
  have tokensPlain := plain_digits request.max_tokens
  have spelled := entrypoint_spelled u request
  rw [tokens] at spelled
  have safe : (entrypointOf (newBatchId u) request.model request.max_tokens).toList.all
      (fun c => plain c || c == ' ') = true := by
    have word : ∀ text : Text, (∀ c ∈ text, plain c = true) →
        text.all (fun c => plain c || c == ' ') = true := by
      intro text plainText
      rw [List.all_eq_true]
      intro c mem
      simp [plainText c mem]
    rw [spelled]
    simp only [List.all_append, List.all_cons, word _ idPlain, word _ modelPlain, word _ tokensPlain]
    decide
  have idNonempty : (newBatchId u).toList ≠ [] := by simp [newBatchId]
  simp only [jobArgv, shellWords, safe, if_true, Option.map_some]
  rw [spelled, tokens,
    splitBlanks_word (by decide) (by decide), splitBlanks_word (by decide) (by decide),
    splitBlanks_word (by decide) (by decide),
    splitBlanks_word idNonempty (not_blank_of_plain idPlain),
    splitBlanks_word (by decide) (by decide),
    splitBlanks_word (model_nonempty request) (not_blank_of_plain modelPlain),
    splitBlanks_word (by decide) (by decide),
    splitBlanks_last (Decimal.chars_ne_nil _) (not_blank_of_plain tokensPlain)]
  rfl

/-! ## Which words are values -/

/-- A word that the parser takes as the value of the option before it. -/
def valueWord (word : Text) : Bool := word.head? ≠ some '-' || word = ['-'] || negativeNumber word

theorem splitEquals_of_absent {word : Text} (absent : '=' ∉ word) : splitEquals word = (word, none) := by
  have all : word.dropWhile (· ≠ '=') = [] := by
    rw [List.dropWhile_eq_nil_iff]
    intro c mem
    exact decide_eq_true fun same => absent (same ▸ mem)
  unfold splitEquals
  rw [all]

/-- A negative number is not taken for an option: it is none, and abbreviates none. -/
theorem negativeNumber_spec {word : Text} (negative : negativeNumber word = true) :
    ∃ c rest, word = '-' :: c :: rest ∧ (c.isDigit = true ∨ c = '.') := by
  cases word with
  | nil => cases negative
  | cons first rest =>
      by_cases dash : first = '-'
      · subst dash
        cases rest with
        | nil => simp [negativeNumber, Json.spanDigits] at negative
        | cons c rest =>
            refine ⟨c, rest, rfl, ?_⟩
            by_cases digit : c.isDigit = true
            · exact .inl digit
            · right
              simp only [negativeNumber, Json.spanDigits, digit] at negative
              by_contra notDot
              simp [notDot] at negative
      · unfold negativeNumber at negative
        split at negative
        · rename_i same
          exact absurd (List.cons.inj same).1 dash
        · cases negative

/-- No option string has a digit or a point after its first dash. -/
theorem lookup_negative {c : Char} {rest : Text} (second : c.isDigit = true ∨ c = '.') :
    optionStringActions.lookup ('-' :: c :: rest) = none := by
  have notDash : c ≠ '-' := by rintro rfl; revert second; decide
  have notH : c ≠ 'h' := by rintro rfl; revert second; decide
  rw [List.lookup_eq_none_iff]
  simp [optionStringActions, notDash, notH]

theorem getOptionTuples_negative {c : Char} {rest : Text} (second : c.isDigit = true ∨ c = '.') :
    getOptionTuples ('-' :: c :: rest) = [] := by
  have notDash : c ≠ '-' := by rintro rfl; revert second; decide
  have notH : c ≠ 'h' := by rintro rfl; revert second; decide
  unfold getOptionTuples
  split
  · rename_i same
    exact absurd (List.cons.inj (List.cons.inj same).2).1 notDash
  · simp [optionStringActions, notDash, notH, Ne.symm notDash, Ne.symm notH]

/-- **A word is read as a value** exactly when it is a value word. -/
theorem parseOptional_value_iff {word : Text} (nonempty : word ≠ []) (noEquals : '=' ∉ word)
    (noBlank : ' ' ∉ word) : parseOptional word = .ok none ↔ valueWord word = true := by
  cases word with
  | nil => exact absurd rfl nonempty
  | cons first rest =>
      by_cases dash : first = '-'
      · subst dash
        constructor
        · intro isValue
          by_contra notValue
          simp only [valueWord, List.head?_cons, Bool.or_eq_true, decide_eq_true_eq, not_or,
            ne_eq, not_true_eq_false, not_false_eq_true, true_and, Bool.not_eq_true] at notValue
          obtain ⟨notSingle, notNegative⟩ := notValue
          have long : rest ≠ [] := fun empty => notSingle (by rw [empty])
          simp only [parseOptional, ne_eq, not_true_eq_false, if_false, long, notNegative,
            splitEquals_of_absent noEquals, noBlank, Bool.false_eq_true] at isValue
          repeat' split at isValue
          all_goals cases isValue
        · intro isValue
          rcases rest with _ | ⟨c, rest⟩
          · decide
          · have negative : negativeNumber ('-' :: c :: rest) = true := by simpa [valueWord] using isValue
            obtain ⟨c', rest', same, second⟩ := negativeNumber_spec negative
            obtain ⟨-, rfl, rfl⟩ : '-' = '-' ∧ c = c' ∧ rest = rest' := by simpa using same
            simp [parseOptional, lookup_negative second, splitEquals_of_absent noEquals,
              getOptionTuples_negative second, negative]
      · simp [parseOptional, valueWord, dash]

theorem classify_value {word : Text} (value : parseOptional word = .ok none) (words : List Text) :
    classify (word :: words) = (classify words).map ((word, .arg) :: ·) := by
  have notSeparator : word ≠ ['-', '-'] := by rintro rfl; revert value; decide
  rw [classify, if_neg notSeparator, value]

theorem classify_option {word : Text} {option : OptionTuple} (notSeparator : word ≠ ['-', '-'])
    (known : parseOptional word = .ok (some option)) (words : List Text) :
    classify (word :: words) = (classify words).map ((word, .option option) :: ·) := by
  rw [classify, if_neg notSeparator, known]

theorem parseOptional_error {word : Text} {code : Nat} (failed : parseOptional word = .error code) :
    code = usageError := by
  unfold parseOptional at failed
  repeat' split at failed
  all_goals cases failed
  rfl

/-- The only error of the classification is the usage error. -/
theorem classify_error {words : List Text} {code : Nat} (failed : classify words = .error code) :
    code = usageError := by
  induction words with
  | nil => cases failed
  | cons word words ih =>
      rw [classify] at failed
      split at failed
      · cases failed
      · split at failed
        · rename_i unknown
          cases failed
          exact parseOptional_error unknown
        all_goals
          cases tail : classify words with
          | ok classified => rw [tail] at failed; cases failed
          | error code' =>
              rw [tail] at failed
              cases failed
              exact ih tail

/-- A word that is not read as a value fails at once or is classified otherwise. -/
theorem classify_not_value {word : Text} (notValue : parseOptional word ≠ .ok none)
    (words : List Text) :
    classify (word :: words) = .error usageError ∨
      ∃ cls tail, cls ≠ .arg ∧ classify (word :: words) = .ok ((word, cls) :: tail) := by
  cases classified : classify (word :: words) with
  | error code => exact .inl (by rw [classify_error classified])
  | ok result =>
      refine .inr ?_
      by_cases separator : word = ['-', '-']
      · rw [classify, if_pos separator] at classified
        cases classified
        exact ⟨.separator, _, by simp, rfl⟩
      · cases known : parseOptional word with
        | error code =>
            rw [classify, if_neg separator, known] at classified
            cases classified
        | ok read =>
            cases read with
            | none => exact absurd known notValue
            | some option =>
                rw [classify_option separator known] at classified
                cases tail : classify words with
                | error code => rw [tail] at classified; cases classified
                | ok tail' =>
                    rw [tail] at classified
                    cases classified
                    exact ⟨.option option, tail', by simp, rfl⟩

theorem parseOptional_not_dash {word : Text} (first : word.head? ≠ some '-') :
    parseOptional word = .ok none := by
  cases word with
  | nil => rfl
  | cons c rest =>
      have notDash : c ≠ '-' := by simpa using first
      simp [parseOptional, notDash]

/-- The six words that `create_batch` formats: they are parsed if the model is read as a
value, and a usage error otherwise. -/
theorem parse_words (DEFAULT_MODEL : String) {b m t : Text} {n : Int} (bValue : b.head? ≠ some '-')
    (tValue : t.head? ≠ some '-') (number : intOfStr t = some n) :
    parse_args DEFAULT_MODEL
        ["--batch-id".toList, b, "--model".toList, m, "--max-tokens".toList, t] =
      if parseOptional m = .ok none then .ok ⟨String.ofList b, String.ofList m, n⟩
      else .error usageError := by
  have option1 : parseOptional "--batch-id".toList =
      .ok (some ⟨some .batch_id, "--batch-id".toList, none⟩) := by decide
  have option2 : parseOptional "--model".toList =
      .ok (some ⟨some .model, "--model".toList, none⟩) := by decide
  have option3 : parseOptional "--max-tokens".toList =
      .ok (some ⟨some .max_tokens, "--max-tokens".toList, none⟩) := by decide
  have last : classify ["--max-tokens".toList, t] =
      .ok [("--max-tokens".toList, .option ⟨some .max_tokens, "--max-tokens".toList, none⟩),
        (t, .arg)] := by
    rw [classify_option (by decide) option3, classify_value (parseOptional_not_dash tValue)]
    rfl
  unfold parse_args
  rw [classify_option (by decide) option1, classify_value (parseOptional_not_dash bValue),
    classify_option (by decide) option2]
  split
  · rename_i value
    rw [classify_value value, last]
    simp [Except.map, consume, store, number, bind, Except.bind]
  · rename_i notValue
    rcases classify_not_value notValue ["--max-tokens".toList, t] with failed | notArg
    · rw [failed]
      rfl
    · obtain ⟨cls, tail, other, classified⟩ := notArg
      rw [classified]
      -- `--model` is followed by a word that cannot be its value
      cases cls with
      | arg => exact absurd rfl other
      | separator => rfl
      | option option => rfl

theorem model_absent {request : CreateBatchRequest} {c : Char} (other : modelChar c = false) :
    c ∉ request.model.toList :=
  fun mem => by simp [request.model_pattern c mem] at other

/-- What the parser makes of the words of a job. -/
theorem parse_job (DEFAULT_MODEL : String) (u : Ulid) (request : CreateBatchRequest) :
    (jobArgv (entrypointOf (newBatchId u) request.model request.max_tokens)).map
        (parse_args DEFAULT_MODEL) =
      some (if parseOptional request.model.toList = .ok none then
        .ok ⟨newBatchId u, request.model, request.max_tokens⟩ else .error usageError) := by
  have idValue : (newBatchId u).toList.head? ≠ some '-' := by
    simp [newBatchId, String.toList_append]
  have tokens : (toString request.max_tokens).toList = Decimal.chars request.max_tokens :=
    Decimal.toList_toString _
  have tokensValue : (Decimal.chars request.max_tokens).head? ≠ some '-' := by
    intro dash
    obtain ⟨rest, same⟩ := List.head?_eq_some_iff.1 dash
    exact absurd (Decimal.chars_isDigit (same ▸ List.mem_cons_self)) (by decide)
  rw [argv_entrypoint, Option.map_some, tokens,
    parse_words DEFAULT_MODEL idValue tokensValue (intOfStr_chars _), String.ofList_toList,
    String.ofList_toList]

/-- **key theorem.** The arguments survive the trip from the request to the worker
exactly when the model name is read as a value: it does not start with `-`, or it
is `-` alone or a negative number. -/
theorem arguments_survive_iff (DEFAULT_MODEL : String) (u : Ulid) (request : CreateBatchRequest) :
    (jobArgv (entrypointOf (newBatchId u) request.model request.max_tokens)).map
        (parse_args DEFAULT_MODEL) =
      some (.ok ⟨newBatchId u, request.model, request.max_tokens⟩) ↔
    valueWord request.model.toList = true := by
  have nonempty : request.model.toList ≠ [] := by
    have long := request.model_min_length
    intro empty
    rw [← String.length_toList, empty] at long
    exact absurd long (by decide)
  rw [parse_job, ← parseOptional_value_iff nonempty (model_absent (by decide))
    (model_absent (by decide))]
  split
  · rename_i value
    exact iff_of_true rfl value
  · rename_i notValue
    exact iff_of_false (by simp) notValue

/-- A request that is accepted and whose job fails before it reads its input. -/
def dashRequest : CreateBatchRequest :=
  { hiRequest with
    model := "-x"
    model_min_length := by decide
    model_max_length := by decide
    model_pattern := List.all_eq_true.1 rfl }

theorem dash_model_refused :
    ¬ ∀ (u : Ulid) (request : CreateBatchRequest),
      (jobArgv (entrypointOf (newBatchId u) request.model request.max_tokens)).map
          (parse_args "Qwen/Qwen2.5-0.5B-Instruct") =
        some (.ok ⟨newBatchId u, request.model, request.max_tokens⟩) := by
  intro survives
  have parsed := survives sampleUlid dashRequest
  rw [argv_entrypoint] at parsed
  exact absurd parsed (by decide)

end KubeRayBatch.Worker
