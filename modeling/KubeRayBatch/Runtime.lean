/-
# Runtime -- the Python values both programs share

Exceptions carry what the code asks of them: their class and its bases (for
`except` clauses and `isinstance`), `type(exc).__name__`, `str(exc)`, and the
status and detail of an `HTTPException`.  `Runtime` holds the functions of the
interpreter that have no counterpart here, Unicode upper-casing and the value of
a float; everything is proved for any such functions.
-/
import KubeRayBatch.Theory.Json
import KubeRayBatch.Theory.TextLines

namespace KubeRayBatch

open Theory

set_option autoImplicit false

/-- The content of a text file, or a `str` that is scanned. -/
abbrev Text := List Char

/-- A string in a line of a log: half of a surrogate pair is shown as its escape. -/
def shown (s : Str) : String :=
  String.ofList (s.flatMap fun c =>
    match c with
    | .scalar c => [c]
    | .lone n => JsonString.unicodeEscape (0xd800 + n.val))

/-- A class, by the module that defines it and its `__name__`. -/
structure PyClass where
  module : String
  name : String
  deriving DecidableEq, Repr

namespace PyClass

def builtin (name : String) : PyClass := ⟨"builtins", name⟩

def baseException : PyClass := builtin "BaseException"
def exception : PyClass := builtin "Exception"
def osError : PyClass := builtin "OSError"
def connectionError : PyClass := builtin "ConnectionError"
def runtimeError : PyClass := builtin "RuntimeError"
def cancelledError : PyClass := ⟨"asyncio.exceptions", "CancelledError"⟩

end PyClass

/-- A raised exception: its class, the other classes of its MRO and `str(exc)`. -/
structure PyException where
  cls : PyClass
  bases : List PyClass
  message : Str
  /-- `status_code` and `detail`, for an `HTTPException`. -/
  http : Option (Nat × String)
  deriving DecidableEq, Repr

namespace PyException

def isinstance (e : PyException) (c : PyClass) : Bool := e.cls == c || e.bases.contains c

/-- `type(exc).__name__` -/
def typeName (e : PyException) : String := e.cls.name

/-- The message in a line of a log. -/
def shown (e : PyException) : String := KubeRayBatch.shown e.message

/-- An exception of a built-in class directly under `Exception`. -/
def simple (name message : String) : PyException :=
  ⟨.builtin name, [.exception, .baseException], .ofText message.toList, none⟩

def runtimeError (message : String) : PyException := simple "RuntimeError" message
def valueError (message : String) : PyException := simple "ValueError" message
def typeError (message : String) : PyException := simple "TypeError" message
def attributeError (message : String) : PyException := simple "AttributeError" message

def overflowError (message : String) : PyException :=
  ⟨.builtin "OverflowError", [.builtin "ArithmeticError", .exception, .baseException],
    .ofText message.toList, none⟩

def fileNotFoundError (message : String) : PyException :=
  ⟨.builtin "FileNotFoundError", [.osError, .exception, .baseException], .ofText message.toList,
    none⟩

/-- What encoding half of a surrogate pair raises. -/
def unicodeEncodeError : PyException :=
  ⟨.builtin "UnicodeEncodeError",
    [.builtin "UnicodeError", .builtin "ValueError", .exception, .baseException],
    .ofText "'utf-8' codec can't encode character: surrogates not allowed".toList, none⟩

/-- What `json.loads` raises on malformed text. -/
def jsonDecodeError : PyException :=
  ⟨⟨"json.decoder", "JSONDecodeError"⟩, [.builtin "ValueError", .exception, .baseException],
    .ofText "malformed JSON".toList, none⟩

def httpException (status_code : Nat) (detail : String) : PyException :=
  ⟨⟨"fastapi.exceptions", "HTTPException"⟩, [.exception, .baseException],
    .ofText (toString status_code ++ ": " ++ detail).toList, some (status_code, detail)⟩

end PyException

/-- What `int` and `bool` ask of a float. -/
inductive PyFloat where
  | nan
  | infinite
  /-- Its integer part, and whether it is other than zero. -/
  | finite (trunc : Int) (nonzero : Bool)
  deriving DecidableEq, Repr

/-- The functions of the interpreter that are not defined here. -/
structure Runtime where
  /-- `str.upper` -/
  upper : String → String
  /-- The float that a lexeme denotes. -/
  float : Text → PyFloat
  /-- Capital ASCII letters are upper case already. -/
  upper_capitals : ∀ s : String, (∀ c ∈ s.toList, c.isUpper = true) → upper s = s
  float_nan : float "NaN".toList = .nan
  float_infinity : float "Infinity".toList = .infinite ∧ float "-Infinity".toList = .infinite

theorem toUpper_capital {c : Char} (capital : c.isUpper = true) : c.toUpper = c := by
  have upper : c.val ≥ 'A'.val ∧ c.val ≤ 'Z'.val := of_decide_eq_true capital
  have high : c.val.toNat ≤ 90 := UInt32.le_iff_toNat_le.1 upper.2
  have notLower : ¬('a'.val ≤ c.val ∧ c.val ≤ 'z'.val) := by
    rintro ⟨low, -⟩
    have low : 97 ≤ c.val.toNat := UInt32.le_iff_toNat_le.1 low
    omega
  exact dif_neg notLower

theorem map_toUpper_capitals {s : String} (capitals : ∀ c ∈ s.toList, c.isUpper = true) :
    String.ofList (s.toList.map Char.toUpper) = s := by
  have same : s.toList.map Char.toUpper = s.toList :=
    (List.map_congr_left fun c mem => toUpper_capital (capitals c mem)).trans (List.map_id _)
  rw [same, String.ofList_toList]

/-- A runtime for ASCII text in which the floats that occur are zero. -/
def Runtime.ascii : Runtime where
  upper := fun s => String.ofList (s.toList.map Char.toUpper)
  float := fun lexeme =>
    if lexeme = "NaN".toList then .nan
    else if lexeme = "Infinity".toList ∨ lexeme = "-Infinity".toList then .infinite
    else .finite 0 false
  upper_capitals := fun _ capitals => map_toUpper_capitals capitals
  float_nan := rfl
  float_infinity := ⟨rfl, rfl⟩

/-! ## `int(...)` -/

/-- `Py_ISSPACE` -/
def isSpaceAscii (c : Char) : Bool := (9 ≤ c.toNat && c.toNat ≤ 13) || c == ' '

/-- The zeros of the decimal digits beyond ASCII. -/
def decimalZeros : List Nat :=
  [0x660, 0x6f0, 0x7c0, 0x966, 0x9e6, 0xa66, 0xae6, 0xb66, 0xbe6, 0xc66, 0xce6, 0xd66, 0xde6,
    0xe50, 0xed0, 0xf20, 0x1040, 0x1090, 0x17e0, 0x1810, 0x1946, 0x19d0, 0x1a80, 0x1a90, 0x1b50,
    0x1bb0, 0x1c40, 0x1c50, 0xa620, 0xa8d0, 0xa900, 0xa9d0, 0xa9f0, 0xaa50, 0xabf0, 0xff10,
    0x104a0, 0x10d30, 0x11066, 0x110f0, 0x11136, 0x111d0, 0x112f0, 0x11450, 0x114d0, 0x11650,
    0x116c0, 0x11730, 0x118e0, 0x11950, 0x11c50, 0x11d50, 0x11da0, 0x16a60, 0x16ac0, 0x16b50,
    0x1d7ce, 0x1d7d8, 0x1d7e2, 0x1d7ec, 0x1d7f6, 0x1e140, 0x1e2f0, 0x1e950, 0x1fbf0]

/-- `_PyUnicode_TransformDecimalAndSpaceToASCII`, for one character. -/
def decimalOrSpaceToAscii (c : Char) : Char :=
  if c.toNat < 127 then c
  else if TextLines.isWhite c then ' '
  else
    match decimalZeros.find? fun first => first ≤ c.toNat && c.toNat ≤ first + 9 with
    | some first => Char.ofNat (48 + (c.toNat - first))
    | none => '?'

/-- The digits of an integer literal, single underscores between them allowed. -/
def intDigits : Text → Option Text
  | [] => none
  | [c] => if c.isDigit then some [c] else none
  | c :: '_' :: cs => if c.isDigit then (intDigits cs).map (c :: ·) else none
  | c :: d :: cs => if c.isDigit then (intDigits (d :: cs)).map (c :: ·) else none

/-- `int(s)` for a string: optional sign, decimal digits, white space around. -/
def intOfStr (s : Text) : Option Int :=
  let ascii := s.map decimalOrSpaceToAscii
  let body := ((ascii.dropWhile isSpaceAscii).reverse.dropWhile isSpaceAscii).reverse
  match body with
  | '-' :: digits => (intDigits digits).map fun ds => -(Decimal.ofChars ds : Int)
  | '+' :: digits => (intDigits digits).map fun ds => (Decimal.ofChars ds : Int)
  | digits => (intDigits digits).map fun ds => (Decimal.ofChars ds : Int)

/-- `int(v)` for a decoded JSON value. -/
def pyInt (rt : Runtime) : Json.Value → Except PyException Int
  | .int i => .ok i
  | .bool b => .ok (if b then 1 else 0)
  | .float lexeme =>
      match rt.float lexeme with
      | .finite trunc _ => .ok trunc
      | .nan => .error (.valueError "cannot convert float NaN to integer")
      | .infinite => .error (.overflowError "cannot convert float infinity to integer")
  | .str s =>
      match s.text?.bind intOfStr with
      | some i => .ok i
      | none => .error (.valueError "invalid literal for int() with base 10")
  | .null | .arr _ | .obj _ =>
      .error (.typeError "int() argument must be a string, a bytes-like object or a real number")

/-- `bool(v)` for a decoded JSON value. -/
def truthy (rt : Runtime) : Json.Value → Bool
  | .null => false
  | .bool b => b
  | .int i => i ≠ 0
  | .float lexeme =>
      match rt.float lexeme with
      | .finite _ nonzero => nonzero
      | .nan | .infinite => true
  | .str s => !s.isEmpty
  | .arr items => !items.isEmpty
  | .obj members => !members.isEmpty

/-- `value.get(key, default)`; only a dict has it. -/
def dictGet (value : Json.Value) (key : String) (default : Json.Value) :
    Except PyException Json.Value :=
  match value with
  | .obj members => .ok ((Json.Value.get? members key.toList).getD default)
  | _ => .error (.attributeError "object has no attribute 'get'")

theorem intDigits_digits {ds : Text} (digits : ∀ c ∈ ds, c.isDigit = true) (nonempty : ds ≠ []) :
    intDigits ds = some ds := by
  induction ds with
  | nil => exact absurd rfl nonempty
  | cons c ds ih =>
      have digit := digits c List.mem_cons_self
      cases ds with
      | nil => simp [intDigits, digit]
      | cons d ds =>
          have notUnderscore : d ≠ '_' := by
            rintro rfl
            exact absurd (digits '_' (by simp)) (by decide)
          have tail := ih (fun e mem => digits e (List.mem_cons_of_mem c mem)) (by simp)
          rw [intDigits]
          · simp [digit, tail]
          · exact notUnderscore

theorem digit_ascii {c : Char} (digit : c.isDigit = true) :
    decimalOrSpaceToAscii c = c ∧ isSpaceAscii c = false := by
  simp only [Char.isDigit, Bool.and_eq_true, decide_eq_true_eq] at digit
  have low : 48 ≤ c.toNat := UInt32.le_iff_toNat_le.1 digit.1
  have high : c.toNat ≤ 57 := UInt32.le_iff_toNat_le.1 digit.2
  refine ⟨if_pos (by omega), ?_⟩
  have notSpace : c ≠ ' ' := by
    rintro rfl
    exact absurd low (by decide)
  simp only [isSpaceAscii, Bool.or_eq_false_iff, Bool.and_eq_false_iff, decide_eq_false_iff_not,
    beq_eq_false_iff_ne]
  exact ⟨by omega, notSpace⟩

/-- `int(str(n)) == n` -/
theorem intOfStr_chars (n : Nat) : intOfStr (Decimal.chars n) = some (n : Int) := by
  have digits : ∀ c ∈ Decimal.chars n, c.isDigit = true := fun c mem => Decimal.chars_isDigit mem
  have ascii : (Decimal.chars n).map decimalOrSpaceToAscii = Decimal.chars n :=
    (List.map_congr_left fun c mem => (digit_ascii (digits c mem)).1).trans (List.map_id _)
  have noSpace : ∀ l : Text, (∀ c ∈ l, c.isDigit = true) → l.dropWhile isSpaceAscii = l := by
    intro l digits
    cases l with
    | nil => rfl
    | cons c l => simp [(digit_ascii (digits c List.mem_cons_self)).2]
  have body : ((Decimal.chars n).dropWhile isSpaceAscii).reverse.dropWhile isSpaceAscii =
      (Decimal.chars n).reverse := by
    rw [noSpace _ digits, noSpace _ fun c mem => digits c (List.mem_reverse.1 mem)]
  have parsed := intDigits_digits digits (Decimal.chars_ne_nil n)
  unfold intOfStr
  simp only [ascii, body, List.reverse_reverse]
  split
  · rename_i rest same
    exact absurd (digits '-' (same ▸ List.mem_cons_self)) (by decide)
  · rename_i rest same
    exact absurd (digits '+' (same ▸ List.mem_cons_self)) (by decide)
  · rw [parsed, Option.map_some, Decimal.ofChars_chars]

example : intOfStr [Char.ofNat 0xa0, Char.ofNat 0x661, Char.ofNat 0x662] = some 12 := by decide

end KubeRayBatch
