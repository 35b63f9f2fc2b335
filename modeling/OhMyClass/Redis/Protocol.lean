import Mathlib.Data.List.Infix

/-!
# The serialization protocol of Redis

Connections that deliver their bytes in chunks, and the replies and requests
of the protocol.
-/

namespace OhMyClass.Redis

open List

abbrev Bytes := List UInt8

/-- `text.encode("utf-8")`. -/
def encodeUtf8 (text : String) : Bytes :=
  text.toList.flatMap String.utf8EncodeChar

/-- `data.decode("utf-8")`, if the bytes are a text. -/
def decodeUtf8 (bytes : Bytes) : Option String :=
  String.fromUTF8? bytes.toByteArray

@[simp]
theorem decodeUtf8_encodeUtf8 (text : String) : decodeUtf8 (encodeUtf8 text) = some text := by
  have encoded : (encodeUtf8 text).toByteArray = text.toByteArray :=
    String.utf8Encode_toList
  rw [decodeUtf8, encoded, String.fromUTF8?, dif_pos text.isValidUTF8]
  rfl

theorem utf8EncodeChar_of_ascii {c : Char} (ascii : c.toNat ≤ 127) :
    String.utf8EncodeChar c = [UInt8.ofNat c.toNat] := by
  exact if_pos ascii

theorem mem_utf8EncodeChar {c : Char} {byte : UInt8} (mem : byte ∈ String.utf8EncodeChar c)
    (ascii : byte.toNat ≤ 127) : c.toNat = byte.toNat := by
  by_cases isAscii : c.toNat ≤ 127
  · rw [utf8EncodeChar_of_ascii isAscii, mem_singleton] at mem
    rw [mem, UInt8.toNat_ofNat']
    omega
  · exfalso
    have notAscii : ¬ c.val.toNat ≤ 127 := isAscii
    unfold String.utf8EncodeChar at mem
    simp only [if_neg notAscii] at mem
    -- Every byte of a longer code has its first bit set.
    have high {bits start : Nat} (below : bits + start < 256) (isHigh : 128 ≤ start)
        (isByte : byte = UInt8.ofNat (bits + start)) : False := by
      rw [isByte, UInt8.toNat_ofNat'] at ascii
      omega
    split at mem
    · simp only [mem_cons, not_mem_nil, or_false] at mem
      rcases mem with isByte | isByte <;> exact high (by omega) (by omega) isByte
    split at mem
    · simp only [mem_cons, not_mem_nil, or_false] at mem
      rcases mem with isByte | isByte | isByte <;> exact high (by omega) (by omega) isByte
    · simp only [mem_cons, not_mem_nil, or_false] at mem
      rcases mem with isByte | isByte | isByte | isByte <;>
        exact high (by omega) (by omega) isByte

theorem cr_not_mem_encodeUtf8 {text : String} (noReturn : '\r' ∉ text.toList) :
    13 ∉ encodeUtf8 text := by
  intro mem
  obtain ⟨c, isChar, inBytes⟩ := mem_flatMap.mp mem
  have same := mem_utf8EncodeChar inBytes (by decide)
  have isReturn : c = '\r' := Char.toNat_inj.mp same
  exact noReturn (isReturn ▸ isChar)

/-! ## Connections -/

/-- A connection, by the chunks in which its bytes arrive. -/
structure Connection where
  chunks : List Bytes
  nonempty : ∀ chunk ∈ chunks, chunk ≠ []

namespace Connection

def bytes (connection : Connection) : Bytes :=
  connection.chunks.flatten

/-- The chunks after so many bytes. -/
def dropChunks : Nat → List Bytes → List Bytes
  | _, [] => []
  | count, chunk :: rest =>
    if count < chunk.length then chunk.drop count :: rest
    else dropChunks (count - chunk.length) rest

theorem ne_nil_of_mem_dropChunks {count : Nat} {chunks : List Bytes}
    (nonempty : ∀ chunk ∈ chunks, chunk ≠ []) : ∀ chunk ∈ dropChunks count chunks, chunk ≠ [] := by
  induction chunks generalizing count with
  | nil => exact nonempty
  | cons first rest ih =>
    rw [forall_mem_cons] at nonempty
    rw [dropChunks]
    split
    · next within =>
      rw [forall_mem_cons]
      refine ⟨?_, nonempty.2⟩
      rwa [ne_eq, drop_eq_nil_iff, not_le]
    · exact ih nonempty.2

def drop (count : Nat) (connection : Connection) : Connection where
  chunks := dropChunks count connection.chunks
  nonempty := ne_nil_of_mem_dropChunks connection.nonempty

/-- The chunk that is next, which is empty at the end. -/
def next (connection : Connection) : Bytes :=
  connection.chunks.headD []

/-- `connection.recv(size)`: at most the next chunk. -/
def recv (size : Nat) (connection : Connection) : Bytes × Connection :=
  (connection.next.take size, connection.drop (min size connection.next.length))

variable {connection : Connection} {count other : Nat}

theorem bytes_drop : (connection.drop count).bytes = connection.bytes.drop count := by
  have general (chunks : List Bytes) (count : Nat) :
      (dropChunks count chunks).flatten = chunks.flatten.drop count := by
    induction chunks generalizing count with
    | nil => simp [dropChunks]
    | cons chunk rest ih =>
      rw [dropChunks, flatten_cons]
      split
      · next within =>
        rw [flatten_cons, drop_append_of_le_length within.le]
      · next beyond =>
        rw [ih, drop_append, drop_eq_nil_of_le (not_lt.mp beyond), nil_append]
  exact general connection.chunks count

theorem drop_zero : connection.drop 0 = connection := by
  rcases connection with ⟨chunks, nonempty⟩
  cases chunks with
  | nil => rfl
  | cons chunk rest =>
    have positive := length_pos_iff.mpr (nonempty chunk mem_cons_self)
    simp [drop, dropChunks, positive]

theorem drop_drop : (connection.drop count).drop other = connection.drop (count + other) := by
  have general (chunks : List Bytes) (count : Nat) :
      dropChunks other (dropChunks count chunks) = dropChunks (count + other) chunks := by
    induction chunks generalizing count with
    | nil => rfl
    | cons chunk rest ih =>
      rw [dropChunks]
      split
      · next within =>
        rw [dropChunks, dropChunks, length_drop]
        by_cases inside : count + other < chunk.length
        · rw [if_pos (by omega), if_pos inside, List.drop_drop]
        · rw [if_neg (by omega), if_neg inside]
          congr 1
          omega
      · next beyond =>
        rw [ih]
        conv_rhs => rw [dropChunks, if_neg (by omega)]
        congr 1
        omega
  simp only [drop, general]

theorem next_prefix (connection : Connection) : connection.next <+: connection.bytes := by
  rcases connection with ⟨chunks, nonempty⟩
  cases chunks with
  | nil => exact prefix_rfl
  | cons chunk rest => exact prefix_append _ _

theorem next_ne_nil (more : connection.bytes ≠ []) : connection.next ≠ [] := by
  rcases connection with ⟨chunks, nonempty⟩
  cases chunks with
  | nil => exact absurd rfl more
  | cons chunk rest => exact nonempty chunk mem_cons_self

/-- So many bytes after the offset lie within one chunk. -/
def InOneChunk (connection : Connection) (offset size : Nat) : Prop :=
  size = 0 ∨ ∃ before chunk after, connection.chunks = before ++ chunk :: after ∧
    before.flatten.length ≤ offset ∧ offset + size ≤ before.flatten.length + chunk.length

theorem inOneChunk_iff {offset size : Nat} :
    connection.InOneChunk offset size ↔ size ≤ (connection.drop offset).next.length := by
  rcases Nat.eq_zero_or_pos size with rfl | positive
  · exact iff_of_true (.inl rfl) (Nat.zero_le _)
  have general (chunks : List Bytes) (offset : Nat) :
      (∃ before chunk after, chunks = before ++ chunk :: after ∧
        before.flatten.length ≤ offset ∧ offset + size ≤ before.flatten.length + chunk.length) ↔
          size ≤ ((dropChunks offset chunks).headD []).length := by
    induction chunks generalizing offset with
    | nil => simp [dropChunks, positive.ne']
    | cons first rest ih =>
      rw [dropChunks]
      split
      · next within =>
        rw [headD_cons, length_drop]
        constructor
        · rintro ⟨before, chunk, after, split, starts, ends⟩
          cases before with
          | nil =>
            cases split
            simp only [flatten_nil, length_nil] at ends
            omega
          | cons other before =>
            cases split
            simp only [flatten_cons, length_append] at starts
            omega
        · intro fits
          exact ⟨[], first, rest, rfl, Nat.zero_le _, by simpa using by omega⟩
      · next beyond =>
        rw [← ih]
        constructor
        · rintro ⟨before, chunk, after, split, starts, ends⟩
          cases before with
          | nil =>
            cases split
            simp only [flatten_nil, length_nil] at ends
            omega
          | cons other before =>
            cases split
            simp only [flatten_cons, length_append] at starts ends
            exact ⟨before, chunk, after, rfl, by omega, by omega⟩
        · rintro ⟨before, chunk, after, rfl, starts, ends⟩
          refine ⟨first :: before, chunk, after, rfl, ?_, ?_⟩
          · simp only [flatten_cons, length_append]
            omega
          · simp only [flatten_cons, length_append]
            omega
  change size = 0 ∨ _ ↔ size ≤ ((dropChunks offset connection.chunks).headD []).length
  rw [← general]
  exact or_iff_right positive.ne'

end Connection

inductive Reply where
  | simple (text : String)
  | integer (value : Int)
  | bulk (text : String)
  | null
  | array (items : List Reply)

def numberLine (number : Int) : Bytes :=
  encodeUtf8 (toString number) ++ [13, 10]

namespace Reply

mutual

def encode : Reply → Bytes
  | simple text => 43 :: encodeUtf8 text ++ [13, 10]
  | integer value => 58 :: numberLine value
  | bulk text => 36 :: numberLine (encodeUtf8 text).length ++ encodeUtf8 text ++ [13, 10]
  | null => 36 :: numberLine (-1)
  | array items => 42 :: numberLine items.length ++ encodeItems items

def encodeItems : List Reply → Bytes
  | [] => []
  | item :: rest => item.encode ++ encodeItems rest

end

mutual

/-- Simple strings are lines of their own. -/
def WellFormed : Reply → Prop
  | simple text => '\r' ∉ text.toList
  | array items => itemsWellFormed items
  | _ => True

def itemsWellFormed : List Reply → Prop
  | [] => True
  | item :: rest => item.WellFormed ∧ itemsWellFormed rest

end

end Reply

/-! ## Requests -/

/-- A number up to the end of its line. -/
def readNumber : Nat → Bytes → Option (Nat × Bytes)
  | _, [] => none
  | value, byte :: rest =>
    if byte = 13 then
      if rest.head? = some 10 then some (value, rest.tail) else none
    else if 48 ≤ byte ∧ byte ≤ 57 then
      readNumber (10 * value + (byte.toNat - 48)) rest
    else
      none

/-- A bulk string after its mark. -/
def readBulk (bytes : Bytes) : Option (String × Bytes) := do
  let (length, rest) ← readNumber 0 bytes
  if (rest.drop length).take 2 = [13, 10] then
    let text ← decodeUtf8 (rest.take length)
    return (text, rest.drop (length + 2))
  else
    none

def readBulks : Nat → Bytes → Option (List String × Bytes)
  | 0, bytes => some ([], bytes)
  | count + 1, bytes =>
    match bytes with
    | [] => none
    | mark :: rest =>
      if mark = 36 then do
        let (text, rest) ← readBulk rest
        let (texts, rest) ← readBulks count rest
        return (text :: texts, rest)
      else
        none

/-- What a server reads of a request: an array of bulk strings. -/
def readRequest : Bytes → Option (List String × Bytes)
  | [] => none
  | mark :: rest =>
    if mark = 42 then do
      let (count, rest) ← readNumber 0 rest
      readBulks count rest
    else
      none

theorem encodeUtf8_toString (number : Nat) :
    encodeUtf8 (toString number) =
      (Nat.toDigits 10 number).map fun digit => UInt8.ofNat digit.toNat := by
  have digits : (toString number).toList = Nat.toDigits 10 number := Nat.toList_repr
  have ascii : ∀ digit ∈ Nat.toDigits 10 number,
      String.utf8EncodeChar digit = [UInt8.ofNat digit.toNat] := by
    intro digit mem
    have isDigit := Nat.isDigit_of_mem_toDigits (by decide) (by decide) mem
    have bounds : 48 ≤ digit.toNat ∧ digit.toNat ≤ 57 := by
      simpa [Char.isDigit, UInt32.le_iff_toNat_le] using isDigit
    exact utf8EncodeChar_of_ascii (by omega)
  rw [encodeUtf8, digits]
  generalize Nat.toDigits 10 number = chars at ascii
  induction chars with
  | nil => rfl
  | cons digit rest ih =>
    rw [forall_mem_cons] at ascii
    rw [flatMap_cons, ascii.1, ih ascii.2]
    rfl

theorem readNumber_numberLine (number : Nat) (rest : Bytes) :
    readNumber 0 (numberLine number ++ rest) = some (number, rest) := by
  have general (digits : List Char) (areDigits : ∀ digit ∈ digits, digit.isDigit = true)
      (value : Nat) :
      readNumber value ((digits.map fun digit => UInt8.ofNat digit.toNat) ++ 13 :: 10 :: rest) =
        some (Nat.ofDigitChars 10 digits value, rest) := by
    induction digits generalizing value with
    | nil => rfl
    | cons digit digits ih =>
      rw [forall_mem_cons] at areDigits
      have bounds : 48 ≤ digit.toNat ∧ digit.toNat ≤ 57 := by
        simpa [Char.isDigit, UInt32.le_iff_toNat_le] using areDigits.1
      have toNat : (UInt8.ofNat digit.toNat).toNat = digit.toNat := by
        rw [UInt8.toNat_ofNat', Nat.mod_eq_of_lt (by omega)]
      have notReturn : UInt8.ofNat digit.toNat ≠ 13 := by
        intro same
        have := congrArg UInt8.toNat same
        rw [toNat] at this
        have : digit.toNat = 13 := this
        omega
      have inRange : 48 ≤ UInt8.ofNat digit.toNat ∧ UInt8.ofNat digit.toNat ≤ 57 := by
        rw [UInt8.le_iff_toNat_le, UInt8.le_iff_toNat_le, toNat]
        exact bounds
      rw [map_cons, cons_append, readNumber, if_neg notReturn, if_pos inRange, toNat,
        ih areDigits.2]
      rfl
  have digits := general (Nat.toDigits 10 number)
    (fun digit mem => Nat.isDigit_of_mem_toDigits (by decide) (by decide) mem) 0
  rw [Nat.ofDigitChars_ten_toDigits, ← encodeUtf8_toString] at digits
  rw [numberLine, append_assoc]
  exact digits

theorem readBulk_encode (text : String) (rest : Bytes) :
    readBulk (numberLine (encodeUtf8 text).length ++ encodeUtf8 text ++ [13, 10] ++ rest) =
      some (text, rest) := by
  have afterText : (encodeUtf8 text ++ ([13, 10] ++ rest)).drop (encodeUtf8 text).length =
      [13, 10] ++ rest := drop_left
  rw [readBulk, append_assoc, append_assoc, readNumber_numberLine]
  simp only [Option.bind_eq_bind, Option.bind_some, afterText, take_left,
    decodeUtf8_encodeUtf8, ← List.drop_drop]
  rfl

theorem readBulks_encode (texts : List String) (rest : Bytes) :
    readBulks texts.length (Reply.encodeItems (texts.map .bulk) ++ rest) = some (texts, rest) := by
  induction texts with
  | nil => rfl
  | cons text texts ih =>
    have shape : Reply.encodeItems ((text :: texts).map .bulk) ++ rest =
        36 :: (numberLine (encodeUtf8 text).length ++ encodeUtf8 text ++ [13, 10] ++
          (Reply.encodeItems (texts.map .bulk) ++ rest)) := by
      simp only [map_cons, Reply.encodeItems, Reply.encode, append_assoc,
        cons_append]
    rw [shape, length_cons, readBulks, readBulk_encode]
    simp only [Option.bind_eq_bind, Option.bind_some, ih]
    rfl

theorem readRequest_encode (texts : List String) (rest : Bytes) :
    readRequest ((Reply.array (texts.map .bulk)).encode ++ rest) = some (texts, rest) := by
  rw [Reply.encode, cons_append, cons_append, readRequest, length_map,
    append_assoc, readNumber_numberLine]
  exact readBulks_encode texts rest

end OhMyClass.Redis
