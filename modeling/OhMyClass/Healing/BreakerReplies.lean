import OhMyClass.Gateway.Snapshots.AnswerKeys
import OhMyClass.Python.Text
import OhMyClass.Redis.Protocol
import OhMyClass.Text.Core
import OhMyClass.Transition.Session

/-!
# The replies of the breaker store

`RedisBreakerStore` reads a reply from a socket with one `recv` for every
piece it needs.  A piece that arrives in two chunks is a short response, and
the breaker that asked for its state goes on as if nothing were stored.
-/

namespace OhMyClass.Healing.BreakerStore

open OhMyClass.Gateway (isSpace)
open Redis
open Transition
open Transition.Session Connection Reply

/-! ## Source definitions -/

inductive RedisError where
  | connection (text : String)
  | value
  | unicodeDecode

inductive RedisResponse where
  | str (text : String)
  | int (value : Int)
  | none
  | list (items : List RedisResponse)

abbrev Reading := Session Connection RedisError

def command (parts : List String) : Bytes :=
  encodeUtf8 ("*" ++ toString parts.length ++ "\r\n") ++
    parts.flatMap fun part =>
      encodeUtf8 ("$" ++ toString (encodeUtf8 part).length ++ "\r\n") ++
        (encodeUtf8 part ++ [13, 10])

/-- `recv` raises for a negative size. -/
def readExact (size : Int) : Reading Bytes := fun connection =>
  if size < 0 then
    (.error .value, connection)
  else
    let (data, after) := connection.recv size.toNat
    if data.length ≠ size.toNat then (.error (.connection "short redis response"), after)
    else (.ok data, after)

def decode (data : Bytes) : Except RedisError String :=
  match decodeUtf8 data with
  | some text => .ok text
  | Option.none => .error .unicodeDecode

/-- Every turn reads a byte, so the bytes of the connection bound the turns. -/
def readLineFrom (chunks : Bytes) : Nat → Reading String
  | 0 => raise (.connection "short redis response")
  | fuel + 1 => do
    let char ← readExact 1
    if char = [13] then
      let _ ← readExact 1
      call (decode chunks)
    else
      readLineFrom (chunks ++ char) fuel

def readLine : Reading String := fun connection =>
  readLineFrom [] (connection.bytes.length + 1) connection

section Decoder

-- The digits `int` knows besides the ones of ASCII.
variable (otherDigits : Char → Option Nat)

def digitValue (c : Char) : Option Nat :=
  if c.isDigit then some (c.toNat - '0'.toNat) else otherDigits c

/-- Digits, with single underscores between them. -/
def digitsOf : List Char → Option (List Nat)
  | [] => Option.none
  | c :: rest => do
    let digit ← digitValue otherDigits c
    match rest with
    | [] => some [digit]
    | '_' :: more => (digitsOf more).map (digit :: ·)
    | next :: more => (digitsOf (next :: more)).map (digit :: ·)

/-- The sign of a number, and the text after it. -/
def signOf : List Char → Int × List Char
  | '-' :: rest => (-1, rest)
  | '+' :: rest => (1, rest)
  | unsigned => (1, unsigned)

/-- `int(text)`, which refuses more than 4300 digits. -/
def intOf (text : String) : Except RedisError Int :=
  let (sign, unsigned) := signOf (Text.trim isSpace text.toList)
  match digitsOf otherDigits unsigned with
  | Option.none => .error .value
  | some digits =>
    if 4300 < digits.length then .error .value
    else .ok (sign * (digits.foldl (fun number digit => 10 * number + digit) 0 : Nat))

/-- The texts of an unexpected prefix, as `repr` writes them. -/
def reprBytes (data : Bytes) : String :=
  let quote := if 39 ∈ data ∧ 34 ∉ data then '"' else '\''
  String.ofList ('b' :: quote ::
    data.flatMap (fun byte =>
      Python.reprChar (fun _ => false) quote (Char.ofNat byte.toNat)) ++ [quote])

/-- `[_read_response(connection) for _ in range(count)]`. -/
def readMany (read : Reading RedisResponse) : Nat → Reading (List RedisResponse)
  | 0 => return []
  | count + 1 => do
    let first ← read
    let others ← readMany read count
    return first :: others

/-- Every reply within a reply starts a byte later at least, so the bytes of
the connection bound the depth. -/
def readResponseWithin : Nat → Reading RedisResponse
  | 0 => raise (.connection "short redis response")
  | depth + 1 => do
    let mark ← readExact 1
    if mark = [43] then
      let line ← readLine
      return .str line
    else if mark = [58] then
      let line ← readLine
      let value ← call (intOf otherDigits line)
      return .int value
    else if mark = [36] then
      let line ← readLine
      let length ← call (intOf otherDigits line)
      if length = -1 then
        return .none
      else
        let data ← readExact length
        let _ ← readExact 2
        let text ← call (decode data)
        return .str text
    else if mark = [42] then
      let line ← readLine
      let count ← call (intOf otherDigits line)
      let items ← readMany (readResponseWithin depth) count.toNat
      return .list items
    else if mark = [45] then
      let line ← readLine
      raise (.connection line)
    else
      raise (.connection ("unexpected redis response prefix: " ++ reprBytes mark))

def readResponse : Reading RedisResponse := fun connection =>
  readResponseWithin otherDigits (connection.bytes.length + 1) connection

end Decoder

/-! ## Numbers -/

/-- How many digits the number has. -/
def digitCount (number : Nat) : Nat :=
  (Nat.toDigits 10 number).length

section Numbers

variable {otherDigits : Char → Option Nat} {digits : List Char}

theorem digitsOf_of_digits (notNil : digits ≠ []) (areDigits : ∀ c ∈ digits, c.isDigit = true) :
    digitsOf otherDigits digits = some (digits.map fun c => c.toNat - '0'.toNat) := by
  induction digits with
  | nil => exact absurd rfl notNil
  | cons c rest ih =>
    rw [List.forall_mem_cons] at areDigits
    have first : digitValue otherDigits c = some (c.toNat - '0'.toNat) := if_pos areDigits.1
    cases rest with
    | nil => simp [digitsOf, first]
    | cons next more =>
      have notUnderscore : next ≠ '_' := by
        rintro rfl
        exact absurd (areDigits.2 _ List.mem_cons_self) (by decide)
      rw [digitsOf, first]
      simp only [Option.bind_eq_bind, Option.bind_some]
      rw [ih (List.cons_ne_nil _ _) areDigits.2]
      rfl

theorem isSpace_of_isDigit {c : Char} (isDigit : c.isDigit = true) : isSpace c = false := by
  have bounds : 48 ≤ c.toNat ∧ c.toNat ≤ 57 := by
    simpa [Char.isDigit, UInt32.le_iff_toNat_le] using isDigit
  simp only [isSpace, Bool.or_eq_false_iff, Bool.and_eq_false_iff, decide_eq_false_iff_not,
    beq_eq_false_iff_ne]
  omega

theorem foldl_digits (digits : List Char) (value : Nat) :
    (digits.map fun c => c.toNat - '0'.toNat).foldl (fun number digit => 10 * number + digit)
      value = Nat.ofDigitChars 10 digits value := by
  induction digits generalizing value with
  | nil => rfl
  | cons c rest ih => rw [List.map_cons, List.foldl_cons, ih, Nat.ofDigitChars_cons]

theorem isDigit_of_mem_toDigits {number : Nat} {c : Char} (mem : c ∈ Nat.toDigits 10 number) :
    c.isDigit = true :=
  Nat.isDigit_of_mem_toDigits (by decide) (by decide) mem

theorem digitsOf_toDigits (number : Nat) :
    digitsOf otherDigits (Nat.toDigits 10 number) =
      some ((Nat.toDigits 10 number).map fun c => c.toNat - '0'.toNat) :=
  digitsOf_of_digits Nat.toDigits_ne_nil fun _ => isDigit_of_mem_toDigits

theorem signOf_of_digits (areDigits : ∀ c ∈ digits, c.isDigit = true) :
    signOf digits = (1, digits) := by
  unfold signOf
  split
  · exact absurd (areDigits '-' List.mem_cons_self) (by decide)
  · exact absurd (areDigits '+' List.mem_cons_self) (by decide)
  · rfl

theorem trimmed_of_signed (sign : List Char) (notSpace : ∀ c ∈ sign, isSpace c = false)
    (areDigits : ∀ c ∈ digits, c.isDigit = true) : Text.Trimmed isSpace (sign ++ digits) := by
  have notBlank (c : Char) (mem : c ∈ sign ++ digits) : isSpace c = false := by
    rcases List.mem_append.mp mem with inSign | inDigits
    · exact notSpace c inSign
    · exact isSpace_of_isDigit (areDigits c inDigits)
  exact ⟨fun c isHead => notBlank c (List.mem_of_head? isHead),
    fun c isLast => notBlank c (List.mem_of_getLast? isLast)⟩

theorem intOf_eq {text : String} (sign : Int) (number : Nat)
    (isText : signOf (Text.trim isSpace text.toList) = (sign, Nat.toDigits 10 number)) :
    intOf otherDigits text =
      if digitCount number ≤ 4300 then .ok (sign * number) else .error .value := by
  rw [intOf, isText]
  simp only [digitsOf_toDigits, List.length_map, foldl_digits, Nat.ofDigitChars_ten_toDigits]
  by_cases short : digitCount number ≤ 4300
  · rw [if_pos short]
    exact if_neg short.not_gt
  · rw [if_neg short]
    exact if_pos (not_le.mp short)

theorem toList_toString (value : Int) :
    (toString value).toList =
      (if value < 0 then ['-'] else []) ++ Nat.toDigits 10 value.natAbs := by
  cases value with
  | ofNat number => exact Nat.toList_repr
  | negSucc number =>
    change ("-" ++ Nat.repr (number + 1)).toList = _
    rw [String.toList_append, Nat.toList_repr, if_pos (Int.negSucc_lt_zero number)]
    rfl

theorem intOf_toString (value : Int) :
    intOf otherDigits (toString value) =
      if digitCount value.natAbs ≤ 4300 then .ok value else .error .value := by
  have areDigits : ∀ c ∈ Nat.toDigits 10 value.natAbs, c.isDigit = true :=
    fun _ => isDigit_of_mem_toDigits
  by_cases negative : value < 0
  · have trimmed := trimmed_of_signed ['-'] (List.forall_mem_singleton.mpr rfl) areDigits
    rw [intOf_eq (-1) value.natAbs
      (by rw [toList_toString, if_pos negative, Text.trim_of_trimmed trimmed]; rfl)]
    have magnitude : -1 * (value.natAbs : Int) = value := by omega
    rw [magnitude]
  · have trimmed := trimmed_of_signed [] nofun areDigits
    rw [intOf_eq 1 value.natAbs
      (by
        rw [toList_toString, if_neg negative, Text.trim_of_trimmed trimmed]
        exact signOf_of_digits areDigits)]
    have magnitude : 1 * (value.natAbs : Int) = value := by omega
    rw [magnitude]

theorem cr_not_mem_toString (value : Int) : '\r' ∉ (toString value).toList := by
  rw [toList_toString, List.mem_append, not_or]
  constructor
  · split
    · decide
    · decide
  · intro isDigit
    exact absurd (isDigit_of_mem_toDigits isDigit) (by decide)

end Numbers

section Pieces

variable {connection : Connection} {rest : Bytes} {size : Nat}

theorem take_next (fits : size ≤ connection.next.length) :
    connection.next.take size = connection.bytes.take size := by
  obtain ⟨others, isBytes⟩ := connection.next_prefix
  rw [← isBytes, List.take_append_of_le_length fits]

theorem readExact_of_le (fits : size ≤ connection.next.length) :
    readExact size connection = (.ok (connection.bytes.take size), connection.drop size) := by
  have nonnegative : ¬ (size : Int) < 0 := by omega
  have length : (connection.bytes.take size).length = size := by
    rw [← take_next fits, List.length_take_of_le fits]
  rw [readExact, if_neg nonnegative]
  simp only [recv, Int.toNat_natCast, take_next fits, min_eq_left fits, length, ne_eq,
    not_true_eq_false, if_false]

theorem readExact_of_not_le (beyond : ¬ size ≤ connection.next.length) :
    ∃ after, readExact size connection =
      (.error (.connection "short redis response"), after) := by
  have short : (connection.next.take size).length ≠ size := by
    rw [List.length_take]
    omega
  rw [readExact]
  simp only [recv, Int.toNat_natCast, ne_eq, short, not_false_eq_true, if_true]
  exact ⟨_, rfl⟩

theorem readExact_one {byte : UInt8} (sent : connection.bytes = byte :: rest) :
    readExact 1 connection = (.ok [byte], connection.drop 1) := by
  have more : connection.next ≠ [] :=
    next_ne_nil (by rw [sent]; exact List.cons_ne_nil _ _)
  have fits : 1 ≤ connection.next.length := List.length_pos_iff.mpr more
  have := readExact_of_le fits
  rwa [sent] at this

theorem bytes_drop_append (before : Bytes) (sent : connection.bytes = before ++ rest) :
    (connection.drop before.length).bytes = rest := by
  rw [bytes_drop, sent, List.drop_left]

theorem readLineFrom_of_bytes {line : Bytes} {last : UInt8} {chunks : Bytes} {fuel : Nat}
    (noReturn : 13 ∉ line) (sent : connection.bytes = line ++ 13 :: last :: rest)
    (enough : line.length < fuel) :
    readLineFrom chunks fuel connection =
      (decode (chunks ++ line), connection.drop (line.length + 2)) := by
  induction line generalizing connection chunks fuel with
  | nil =>
    cases fuel with
    | zero => exact absurd enough (Nat.not_lt_zero _)
    | succ fuel =>
      have after : (connection.drop 1).bytes = last :: rest :=
        bytes_drop_append [13] sent
      rw [readLineFrom, bind_of_ok (readExact_one sent), if_pos rfl,
        bind_of_ok (readExact_one after), drop_drop, List.append_nil]
      rfl
  | cons byte line ih =>
    cases fuel with
    | zero => exact absurd enough (Nat.not_lt_zero _)
    | succ fuel =>
      rw [List.mem_cons, not_or] at noReturn
      have notReturn : [byte] ≠ [13] := fun same => noReturn.1 (List.cons.inj same).1.symm
      have after : (connection.drop 1).bytes = line ++ 13 :: last :: rest :=
        bytes_drop_append [byte] sent
      rw [readLineFrom, bind_of_ok (readExact_one sent), if_neg notReturn,
        ih noReturn.2 after (Nat.lt_of_succ_lt_succ enough), drop_drop,
        List.append_assoc, List.length_cons]
      congr 2
      omega

theorem readLine_of_bytes {line : String} (noReturn : '\r' ∉ line.toList)
    (sent : connection.bytes = encodeUtf8 line ++ [13, 10] ++ rest) :
    readLine connection = (.ok line, connection.drop ((encodeUtf8 line ++ [13, 10]).length)) := by
  rw [List.append_assoc] at sent
  have enough : (encodeUtf8 line).length < connection.bytes.length + 1 := by
    rw [sent, List.length_append]
    omega
  rw [readLine, readLineFrom_of_bytes (cr_not_mem_encodeUtf8 noReturn) sent enough,
    List.nil_append, decode, decodeUtf8_encodeUtf8, List.length_append]
  rfl

theorem readLine_numberLine {number : Int}
    (sent : connection.bytes = numberLine number ++ rest) :
    readLine connection = (.ok (toString number), connection.drop (numberLine number).length) :=
  readLine_of_bytes (cr_not_mem_toString number) sent

end Pieces

/-- The reading returns the value and leaves the connection after it when the
condition holds, and raises when it does not. -/
structure ReadsWhen {α : Type} (condition : Prop) (reading : Reading α)
    (connection : Connection) (value : α) (after : Connection) : Prop where
  returns : condition → reading connection = (.ok value, after)
  raises : ¬ condition → ∃ exception state, reading connection = (.error exception, state)

namespace ReadsWhen

variable {α β : Type} {condition other : Prop} {first : Reading α} {next : α → Reading β}
  {connection between after : Connection} {value : α} {result : β}

theorem of_eq (ret : first connection = (.ok value, after)) :
    ReadsWhen True first connection value after :=
  ⟨fun _ => ret, fun no => absurd trivial no⟩

theorem congr (condition : Prop) (reads : ReadsWhen condition first connection value after)
    (same : condition ↔ other) : ReadsWhen other first connection value after :=
  ⟨fun holds => reads.returns (same.mpr holds), fun fails => reads.raises (mt same.mp fails)⟩

theorem bind (reads : ReadsWhen condition first connection value between)
    (readsNext : ReadsWhen other (next value) between result after) :
    ReadsWhen (condition ∧ other) (first >>= next) connection result after where
  returns both := by
    rw [bind_of_ok (reads.returns both.1)]
    exact readsNext.returns both.2
  raises fails := by
    by_cases holds : condition
    · obtain ⟨exception, state, raised⟩ := readsNext.raises fun otherHolds =>
        fails ⟨holds, otherHolds⟩
      exact ⟨exception, state, by rw [bind_of_ok (reads.returns holds), raised]⟩
    · obtain ⟨exception, state, raised⟩ := reads.raises holds
      exact ⟨exception, state, bind_apply_error next raised⟩

theorem pure : ReadsWhen True (Pure.pure value) connection value connection :=
  of_eq rfl

theorem piece (connection : Connection) (size : Nat) :
    ReadsWhen (size ≤ connection.next.length) (readExact size) connection
      (connection.bytes.take size) (connection.drop size) where
  returns := readExact_of_le
  raises beyond := by
    obtain ⟨state, raised⟩ := readExact_of_not_le beyond
    exact ⟨_, state, raised⟩

theorem number {otherDigits : Char → Option Nat} {number : Int} :
    ReadsWhen (digitCount number.natAbs ≤ 4300) (call (intOf otherDigits (toString number)))
      connection number connection where
  returns short := by
    rw [intOf_toString, if_pos short]
    rfl
  raises long := by
    rw [intOf_toString, if_neg long]
    exact ⟨_, _, rfl⟩

end ReadsWhen

/-! ## Replies that arrive -/

section Arrival

mutual

/-- What the decoder makes of a reply. -/
def valueOf : Reply → RedisResponse
  | .simple text => .str text
  | .integer value => .int value
  | .bulk text => .str text
  | .null => .none
  | .array items => .list (valuesOf items)

def valuesOf : List Reply → List RedisResponse
  | [] => []
  | item :: rest => valueOf item :: valuesOf rest

end

variable (connection : Connection)

mutual

/-- No number is too long for `int`, and the text of every bulk string and the
two bytes after it come in one chunk each. -/
def Arrives (offset : Nat) : Reply → Prop
  | .simple _ => True
  | .integer value => digitCount value.natAbs ≤ 4300
  | .bulk text =>
    let size := (encodeUtf8 text).length
    let start := offset + 1 + (numberLine size).length
    digitCount size ≤ 4300 ∧ connection.InOneChunk start size ∧
      connection.InOneChunk (start + size) 2
  | .null => True
  | .array items =>
    digitCount items.length ≤ 4300 ∧
      itemsArrive (offset + 1 + (numberLine items.length).length) items

def itemsArrive (offset : Nat) : List Reply → Prop
  | [] => True
  | item :: rest => Arrives offset item ∧ itemsArrive (offset + item.encode.length) rest

end

variable {connection} {otherDigits : Char → Option Nat} {offset depth : Nat} {rest : Bytes}

theorem bytes_drop_add (before : Bytes)
    (sent : (connection.drop offset).bytes = before ++ rest) :
    (connection.drop (offset + before.length)).bytes = rest := by
  rw [← drop_drop]
  exact bytes_drop_append before sent

theorem reads_mark {mark : UInt8} (sent : (connection.drop offset).bytes = mark :: rest) :
    ReadsWhen True (readExact 1) (connection.drop offset) [mark] (connection.drop (offset + 1)) :=
  .of_eq (by rw [readExact_one sent, drop_drop])

theorem reads_numberLine {number : Int}
    (sent : (connection.drop offset).bytes = numberLine number ++ rest) :
    ReadsWhen True readLine (connection.drop offset) (toString number)
      (connection.drop (offset + (numberLine number).length)) :=
  .of_eq (by rw [readLine_numberLine sent, drop_drop])

theorem reads_piece {piece : Bytes} (sent : (connection.drop offset).bytes = piece ++ rest) :
    ReadsWhen (connection.InOneChunk offset piece.length) (readExact piece.length)
      (connection.drop offset) piece (connection.drop (offset + piece.length)) := by
  have reads := ReadsWhen.piece (connection.drop offset) piece.length
  rw [sent, List.take_left, drop_drop] at reads
  exact reads.congr _ inOneChunk_iff.symm

theorem bytes_after_mark {mark : UInt8}
    (sent : (connection.drop offset).bytes = mark :: rest) :
    (connection.drop (offset + 1)).bytes = rest :=
  bytes_drop_add [mark] sent

variable {text : String}

theorem reads_simple (wellFormed : (Reply.simple text).WellFormed)
    (sent : (connection.drop offset).bytes = (Reply.simple text).encode ++ rest) :
    ReadsWhen (Arrives connection offset (.simple text)) (readResponseWithin otherDigits (depth + 1))
      (connection.drop offset) (valueOf (.simple text))
      (connection.drop (offset + (Reply.simple text).encode.length)) := by
  have size : offset + (Reply.simple text).encode.length =
      offset + 1 + (encodeUtf8 text ++ [13, 10]).length := by
    simp only [Reply.encode, List.cons_append, List.length_cons]
    omega
  have line : ReadsWhen True readLine (connection.drop (offset + 1)) text
      (connection.drop (offset + 1 + (encodeUtf8 text ++ [13, 10]).length)) :=
    .of_eq (by rw [readLine_of_bytes wellFormed (bytes_after_mark sent), drop_drop])
  rw [size]
  refine ReadsWhen.congr (True ∧ True ∧ True) ?_ (by simp only [and_self, Arrives])
  refine (reads_mark sent).bind ?_
  exact line.bind .pure

theorem reads_integer {value : Int}
    (sent : (connection.drop offset).bytes = (Reply.integer value).encode ++ rest) :
    ReadsWhen (Arrives connection offset (.integer value))
      (readResponseWithin otherDigits (depth + 1)) (connection.drop offset)
      (valueOf (.integer value))
      (connection.drop (offset + (Reply.integer value).encode.length)) := by
  have size : offset + (Reply.integer value).encode.length =
      offset + 1 + (numberLine value).length := by
    simp only [Reply.encode, List.length_cons]
    omega
  rw [size]
  refine ReadsWhen.congr (True ∧ True ∧ digitCount value.natAbs ≤ 4300 ∧ True) ?_
    (by simp only [true_and, and_true, Arrives])
  refine (reads_mark sent).bind ?_
  exact (reads_numberLine (bytes_after_mark sent)).bind (ReadsWhen.number.bind .pure)

theorem reads_null (sent : (connection.drop offset).bytes = Reply.null.encode ++ rest) :
    ReadsWhen (Arrives connection offset .null) (readResponseWithin otherDigits (depth + 1))
      (connection.drop offset) (valueOf .null)
      (connection.drop (offset + Reply.null.encode.length)) := by
  refine ReadsWhen.congr
    (True ∧ True ∧ digitCount (-1 : Int).natAbs ≤ 4300 ∧ True) ?_
    (by simp only [true_and, and_true, Arrives, iff_true]; decide)
  refine (reads_mark sent).bind ?_
  refine (reads_numberLine (bytes_after_mark sent)).bind (ReadsWhen.number.bind ?_)
  exact .pure

theorem reads_text :
    ReadsWhen True (call (decode (encodeUtf8 text))) connection text connection :=
  .of_eq (by rw [decode, decodeUtf8_encodeUtf8]; rfl)

theorem reads_bulk (sent : (connection.drop offset).bytes = (Reply.bulk text).encode ++ rest) :
    ReadsWhen (Arrives connection offset (.bulk text)) (readResponseWithin otherDigits (depth + 1))
      (connection.drop offset) (valueOf (.bulk text))
      (connection.drop (offset + (Reply.bulk text).encode.length)) := by
  have size : offset + (Reply.bulk text).encode.length =
      offset + 1 + (numberLine (encodeUtf8 text).length).length + (encodeUtf8 text).length +
        ([13, 10] : Bytes).length := by
    simp only [Reply.encode, List.cons_append, List.length_cons, List.length_append]
    omega
  have header : (connection.drop (offset + 1)).bytes =
      numberLine (encodeUtf8 text).length ++ (encodeUtf8 text ++ ([13, 10] ++ rest)) := by
    rw [bytes_after_mark sent]
    simp only [List.append_eq, List.append_assoc]
  have body := bytes_drop_add _ header
  rw [size]
  refine ReadsWhen.congr (True ∧ True ∧
    digitCount ((encodeUtf8 text).length : Int).natAbs ≤ 4300 ∧
      connection.InOneChunk (offset + 1 + (numberLine (encodeUtf8 text).length).length)
        (encodeUtf8 text).length ∧
      connection.InOneChunk (offset + 1 + (numberLine (encodeUtf8 text).length).length +
        (encodeUtf8 text).length) 2 ∧ True ∧ True)
    ?_ (by simp only [true_and, and_true, Arrives, Int.natAbs_natCast])
  refine (reads_mark sent).bind ?_
  refine (reads_numberLine header).bind (ReadsWhen.number.bind ?_)
  exact (reads_piece body).bind <| (reads_piece (bytes_drop_add _ body)).bind <|
    reads_text.bind .pure

theorem length_lt_of_array {items : List Reply} {depth : Nat}
    (enough : (Reply.array items).encode.length < depth + 1) :
    (encodeItems items).length < depth := by
  simp only [Reply.encode, List.cons_append, List.length_cons, List.length_append] at enough
  omega

mutual

theorem reads_reply (reply : Reply) {offset depth : Nat} {rest : Bytes}
    (wellFormed : reply.WellFormed)
    (sent : (connection.drop offset).bytes = reply.encode ++ rest)
    (enough : reply.encode.length < depth) :
    ReadsWhen (Arrives connection offset reply) (readResponseWithin otherDigits depth)
      (connection.drop offset) (valueOf reply)
      (connection.drop (offset + reply.encode.length)) := by
  cases depth with
  | zero => exact absurd enough (Nat.not_lt_zero _)
  | succ depth =>
    cases reply with
    | simple text => exact reads_simple wellFormed sent
    | integer value => exact reads_integer sent
    | bulk text => exact reads_bulk sent
    | null => exact reads_null sent
    | array items =>
      have size : offset + (Reply.array items).encode.length =
          offset + 1 + (numberLine items.length).length + (encodeItems items).length := by
        simp only [Reply.encode, List.cons_append, List.length_cons, List.length_append]
        omega
      have header : (connection.drop (offset + 1)).bytes =
          numberLine items.length ++ (encodeItems items ++ rest) := by
        rw [bytes_after_mark sent]
        simp only [List.append_eq, List.append_assoc]
      rw [size]
      refine ReadsWhen.congr (True ∧ True ∧
        digitCount (items.length : Int).natAbs ≤ 4300 ∧
          itemsArrive connection (offset + 1 + (numberLine items.length).length) items ∧ True)
        ?_ (by simp only [true_and, and_true, Arrives, Int.natAbs_natCast])
      rw [readResponseWithin]
      refine (reads_mark sent).bind ?_
      rw [if_neg (by decide), if_neg (by decide), if_neg (by decide), if_pos rfl]
      refine (reads_numberLine header).bind (ReadsWhen.number.bind ?_)
      exact (reads_items items wellFormed (bytes_drop_add _ header) (length_lt_of_array enough)).bind
        .pure

theorem reads_items (items : List Reply) {offset depth : Nat} {rest : Bytes}
    (wellFormed : itemsWellFormed items)
    (sent : (connection.drop offset).bytes = encodeItems items ++ rest)
    (enough : (encodeItems items).length < depth) :
    ReadsWhen (itemsArrive connection offset items)
      (readMany (readResponseWithin otherDigits depth) items.length) (connection.drop offset)
      (valuesOf items) (connection.drop (offset + (encodeItems items).length)) := by
  cases items with
  | nil => exact .pure
  | cons item items =>
    rw [encodeItems, List.append_assoc] at sent
    rw [encodeItems, List.length_append] at enough
    have first : item.encode.length < depth := (Nat.le_add_right _ _).trans_lt enough
    have others : (encodeItems items).length < depth :=
      (Nat.le_add_left _ _).trans_lt enough
    rw [encodeItems, List.length_append, ← Nat.add_assoc]
    refine ReadsWhen.congr (Arrives connection offset item ∧
      itemsArrive connection (offset + item.encode.length) items ∧ True)
      ?_ (by simp only [and_true, itemsArrive])
    refine (reads_reply item wellFormed.1 sent first).bind ?_
    exact (reads_items items wellFormed.2 (bytes_drop_add _ sent) others).bind .pure

end

theorem command_eq (parts : List String) :
    command parts = (Reply.array (parts.map .bulk)).encode := by
  have line (mark : String) (number : Nat) :
      encodeUtf8 (mark ++ toString number ++ "\r\n") = encodeUtf8 mark ++ numberLine number := by
    simp only [encodeUtf8, numberLine, String.toList_append, List.flatMap_append,
      List.append_assoc]
    rfl
  have items (texts : List String) :
      (texts.flatMap fun part =>
        encodeUtf8 ("$" ++ toString (encodeUtf8 part).length ++ "\r\n") ++
          (encodeUtf8 part ++ [13, 10])) =
        encodeItems (texts.map .bulk) := by
    induction texts with
    | nil => rfl
    | cons text texts ih =>
      rw [List.flatMap_cons, ih, line, ← List.append_assoc]
      rfl
  rw [command, items, line, Reply.encode, List.length_map]
  rfl

end Arrival

variable (otherDigits : Char → Option Nat) {connection : Connection} {reply : Reply} {rest : Bytes}

/-- The decoder returns the value that was sent and leaves what came after it,
and a server reads the parts of a command back. -/
structure UndoesProtocol (connection : Connection)
    (reply : Reply) (rest : Bytes) (parts : List String) : Prop where
  reads : ∃ after, readResponse otherDigits connection = (.ok (valueOf reply), after) ∧
    after.bytes = rest
  isRead : readRequest (command parts) = some (parts, [])

theorem readRequest_command (parts : List String) :
    readRequest (command parts) = some (parts, []) := by
  have := readRequest_encode parts []
  rwa [List.append_nil, ← command_eq] at this

theorem readsWhen_readResponse (wellFormed : reply.WellFormed)
    (sent : connection.bytes = reply.encode ++ rest) :
    ReadsWhen (Arrives connection 0 reply) (readResponse otherDigits) connection (valueOf reply)
      (connection.drop reply.encode.length) := by
  have enough : reply.encode.length < connection.bytes.length + 1 := by
    rw [sent, List.length_append]
    omega
  have fromStart : (connection.drop 0).bytes = reply.encode ++ rest := by
    rw [drop_zero, sent]
  have reads : ReadsWhen _ (readResponseWithin otherDigits _) _ _ _ :=
    reads_reply reply wellFormed fromStart enough
  rw [drop_zero, Nat.zero_add] at reads
  exact ⟨reads.returns, reads.raises⟩

/-- The decoder undoes the protocol exactly when no chunk ends within a text or
within the end of a text. -/
theorem undoesProtocol_iff_arrives (wellFormed : reply.WellFormed)
    (sent : connection.bytes = reply.encode ++ rest) (parts : List String) :
    UndoesProtocol otherDigits connection reply rest parts ↔ Arrives connection 0 reply := by
  have reads := readsWhen_readResponse otherDigits wellFormed sent
  constructor
  · rintro ⟨⟨after, ret, -⟩, -⟩
    by_contra broken
    obtain ⟨exception, state, raised⟩ := reads.raises broken
    rw [raised] at ret
    cases ret
  · intro arrives
    exact ⟨⟨_, reads.returns arrives, bytes_drop_append _ sent⟩, readRequest_command parts⟩

/-- The header of a text in a chunk of its own. -/
def afterHeader : Connection where
  chunks := [36 :: numberLine 4, encodeUtf8 "open" ++ [13, 10]]
  nonempty := by decide

theorem undoesProtocol_afterHeader :
    UndoesProtocol (fun _ => none) afterHeader (.bulk "open") [] ["HGETALL", "breaker:run:r1"] :=
  have isWellFormed : (Reply.bulk "open").WellFormed := trivial
  (undoesProtocol_iff_arrives _ isWellFormed (by decide) _).mpr
    ⟨by decide, Connection.inOneChunk_iff.mpr (by decide), Connection.inOneChunk_iff.mpr (by decide)⟩

/-- A chunk that ends within the text. -/
def withinText : Connection where
  chunks := [36 :: numberLine 4 ++ encodeUtf8 "op", encodeUtf8 "en" ++ [13, 10]]
  nonempty := by decide

theorem withinText_not_undone :
    (Reply.bulk "open").WellFormed ∧ withinText.bytes = (Reply.bulk "open").encode ++ [] ∧
      ¬ UndoesProtocol (fun _ => none) withinText (.bulk "open") []
        ["HGETALL", "breaker:run:r1"] := by
  have sent : withinText.bytes = (Reply.bulk "open").encode ++ [] := by decide
  have isWellFormed : (Reply.bulk "open").WellFormed := trivial
  refine ⟨isWellFormed, sent, ?_⟩
  rintro ⟨⟨after, ret, -⟩, -⟩
  have broken : ¬ Arrives withinText 0 (.bulk "open") := by
    rintro ⟨-, within, -⟩
    exact absurd (inOneChunk_iff.mp within) (by decide)
  obtain ⟨exception, state, raised⟩ :=
    (readsWhen_readResponse _ isWellFormed sent).raises broken
  rw [raised] at ret
  cases ret

end OhMyClass.Healing.BreakerStore
