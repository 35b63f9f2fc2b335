import Mathlib.Algebra.Group.Nat.Defs
import Mathlib.Data.List.Nodup
import OhMyClass.Text.Core

/-!
# Flashcard exports

The notes and cards of an Anki package, whose ids are hashes of their places,
and the lines of a tab-separated export.
-/

namespace OhMyClass.Flashcards

open List OhMyClass.Text

/-- A text by its UTF-16 code units. -/
abbrev JsString := List UInt16

/-- The code units of an ASCII text. -/
def ascii (text : String) : JsString :=
  text.toList.map fun c => c.toNat.toUInt16

/-- The hash of `stableId`, in 32 bits. -/
def hash (seed : JsString) : BitVec 32 :=
  seed.foldl (fun h unit => 31 * h + BitVec.ofNat 32 unit.toNat) 0

/-- `Math.abs(h) || 1`. -/
def stableId (seed : JsString) : Nat :=
  if (hash seed).toInt.natAbs = 0 then 1 else (hash seed).toInt.natAbs

structure AnkiCard where
  front : JsString
  back : JsString
  tags : Option (List JsString)

/-- A row of `notes`, but for its constants. -/
structure Note where
  id : Nat
  guid : JsString
  mid : Nat
  mod : Int
  tags : JsString
  flds : JsString

/-- A row of `cards`, but for its constants. -/
structure Card where
  id : Nat
  nid : Nat
  did : Nat
  mod : Int
  due : Nat

/-- The tables with rows for the cards. -/
structure Collection where
  notes : List Note
  cards : List Card

def space : UInt16 := 0x20

/-- The field separator `\x1f`. -/
def unitSeparator : UInt16 := 0x1f

def seed (kind : String) (deckName : JsString) (i : Nat) : JsString :=
  ascii kind ++ deckName ++ ascii ":" ++ ascii (toString i)

section ExportApkg

variable (deckName : JsString) (seedTs : Int)

def noteRow (card : AnkiCard) (i : Nat) : Note where
  id := stableId (seed "note:" deckName i)
  guid := ascii "guid-" ++ ascii (toString (stableId (seed "note:" deckName i)))
  mid := stableId (ascii "model:" ++ deckName)
  mod := seedTs
  tags := [space].intercalate (card.tags.getD [])
  flds := card.front ++ unitSeparator :: card.back

def cardRow (i : Nat) : Card where
  id := stableId (seed "card:" deckName i)
  nid := stableId (seed "note:" deckName i)
  did := stableId (ascii "deck:" ++ deckName)
  mod := seedTs
  due := i

/-- The body of the loop over the cards; an insert with the id of a row raises. -/
def insertCard (collection : Collection) (entry : AnkiCard × Nat) : Option Collection :=
  let note := noteRow deckName seedTs entry.1 entry.2
  let card := cardRow deckName seedTs entry.2
  if note.id ∈ collection.notes.map Note.id ∨ card.id ∈ collection.cards.map Card.id then none
  else some ⟨collection.notes ++ [note], collection.cards ++ [card]⟩

def exportApkg (cards : List AnkiCard) : Option Collection :=
  cards.zipIdx.foldlM (insertCard deckName seedTs) ⟨[], []⟩

end ExportApkg

def tab : UInt16 := 0x09

def newline : UInt16 := 0x0a

def sanitizeField (text : JsString) : JsString :=
  (text.map fun unit => if unit = tab then space else unit).flatMap fun unit =>
    if unit = newline then ascii "<br>" else [unit]

/-- A line of the tab-separated export. -/
def tsvLine (tagStr : JsString) (card : AnkiCard) : JsString :=
  let line := sanitizeField card.front ++ tab :: sanitizeField card.back
  if tagStr = [] then line else line ++ tab :: tagStr

/-- `FlashcardTSVExporter.export`. -/
def exportTsv (cards : List AnkiCard) (tags : List JsString) : JsString :=
  [newline].intercalate (cards.map (tsvLine ([space].intercalate tags)))

/-! ## Distinct ids -/

/-- The hash of a seed before it is cut to 32 bits. -/
def polynomial (seed : JsString) : Nat :=
  seed.foldl (fun h unit => 31 * h + unit.toNat) 0

/-- Hashes that agree up to their sign, or up to zero and one. -/
def SameId (first second : Nat) : Prop :=
  first % 2 ^ 32 = second % 2 ^ 32 ∨ (first + second) % 2 ^ 32 = 0 ∨
    (first + 1) % 2 ^ 32 ≤ 2 ∧ (second + 1) % 2 ^ 32 ≤ 2

theorem hash_eq (seed : JsString) : hash seed = BitVec.ofNat 32 (polynomial seed) := by
  have folded (units : JsString) (h : Nat) :
      units.foldl (fun h unit => 31 * h + BitVec.ofNat 32 unit.toNat) (BitVec.ofNat 32 h) =
        BitVec.ofNat 32 (units.foldl (fun h unit => 31 * h + unit.toNat) h) := by
    induction units generalizing h with
    | nil => rfl
    | cons unit units ih =>
      rw [List.foldl_cons, List.foldl_cons, ← ih, BitVec.ofNat_add, BitVec.ofNat_mul]
      rfl
  exact folded seed 0

theorem stableId_eq_iff {first second : JsString} :
    stableId first = stableId second ↔ SameId (polynomial first) (polynomial second) := by
  unfold stableId SameId
  rw [hash_eq, hash_eq, BitVec.toInt_ofNat', BitVec.toInt_ofNat']
  have inRange (n : Nat) : -2 ^ 31 ≤ (n : Int).bmod (2 ^ 32) ∧ (n : Int).bmod (2 ^ 32) < 2 ^ 31 ∧
      ((n : Int).bmod (2 ^ 32) - n) % 2 ^ 32 = 0 := by
    rw [Int.bmod]
    split <;> omega
  have firstRange := inRange (polynomial first)
  have secondRange := inRange (polynomial second)
  generalize (polynomial first : Int).bmod (2 ^ 32) = x at *
  generalize (polynomial second : Int).bmod (2 ^ 32) = y at *
  split <;> split <;> omega

/-- No two of the first places have the same id. -/
def DistinctIds (kind : String) (deckName : JsString) (count : Nat) : Prop :=
  ∀ i < count, ∀ j < count,
    SameId (polynomial (seed kind deckName i)) (polynomial (seed kind deckName j)) → i = j

theorem nodup_ids_iff {kind : String} {deckName : JsString} {count : Nat} :
    ((List.range count).map fun i => stableId (seed kind deckName i)).Nodup ↔
      DistinctIds kind deckName count := by
  rw [nodup_map_iff_inj_on nodup_range]
  simp only [DistinctIds, mem_range, stableId_eq_iff]

/-! ## Inserts -/

section Inserts

variable {deckName : JsString} {seedTs : Int} {cards : List AnkiCard}

def rowsOf (deckName : JsString) (seedTs : Int) (cards : List AnkiCard) : Collection where
  notes := cards.zipIdx.map fun entry => noteRow deckName seedTs entry.1 entry.2
  cards := cards.zipIdx.map fun entry => cardRow deckName seedTs entry.2

theorem ids_rowsOf :
    ((rowsOf deckName seedTs cards).notes.map Note.id).Nodup =
        DistinctIds "note:" deckName cards.length ∧
      ((rowsOf deckName seedTs cards).cards.map Card.id).Nodup =
        DistinctIds "card:" deckName cards.length := by
  rw [← nodup_ids_iff, ← nodup_ids_iff, range_eq_range', ← zipIdx_map_snd 0 cards]
  simp only [rowsOf, map_map]
  exact ⟨rfl, rfl⟩

theorem exportApkg_eq_some_iff {collection : Collection} :
    exportApkg deckName seedTs cards = some collection ↔
      (DistinctIds "note:" deckName cards.length ∧ DistinctIds "card:" deckName cards.length) ∧
        rowsOf deckName seedTs cards = collection := by
  rw [← ids_rowsOf.1, ← ids_rowsOf.2]
  unfold exportApkg rowsOf
  induction cards.zipIdx using List.reverseRecOn generalizing collection with
  | nil => simp [eq_comm]
  | append_singleton entries entry ih =>
    have concat {items : List Nat} {last : Nat} :
        (items ++ [last]).Nodup ↔ last ∉ items ∧ items.Nodup := by
      rw [nodup_append_comm, singleton_append, nodup_cons]
    rw [foldlM_append, Option.bind_eq_bind, Option.bind_eq_some_iff]
    simp only [ih, foldlM_cons, foldlM_nil, map_append, map_singleton, concat,
      insertCard]
    constructor
    · rintro ⟨between, ⟨⟨notes, cards⟩, rfl⟩, inserted⟩
      split at inserted
      · cases inserted
      · next free =>
        rw [not_or] at free
        exact ⟨⟨⟨free.1, notes⟩, free.2, cards⟩, Option.some.inj inserted⟩
    · rintro ⟨⟨⟨freeNote, notes⟩, freeCard, cards⟩, rfl⟩
      refine ⟨_, ⟨⟨notes, cards⟩, rfl⟩, ?_⟩
      rw [if_neg (not_or.mpr ⟨freeNote, freeCard⟩)]
      rfl

end Inserts

/-! ## Fields and lines -/

theorem splitOn_intercalate_iff {separator : UInt16} {pieces : List JsString} (some_ : pieces ≠ []) :
    ([separator].intercalate pieces).splitOn separator = pieces ↔
      ∀ piece ∈ pieces, separator ∉ piece := by
  refine ⟨fun split piece mem isIn => ?_, fun apart => splitOn_intercalate _ apart some_⟩
  rw [← split, splitOn_eq_splitOnP] at mem
  exact absurd (notBlank_of_mem_splitOnP mem separator isIn) (by simp)

/-- The columns of a card, with the tags if there are any. -/
def columns (tags : List JsString) (card : AnkiCard) : List JsString :=
  [sanitizeField card.front, sanitizeField card.back] ++
    if tags = [] then [] else [[space].intercalate tags]

/-- The lines of an export; an empty one has none. -/
def tsvLines (text : JsString) : List JsString :=
  if text = [] then [] else text.splitOn newline

def TagColumn (tags : List JsString) : Prop :=
  tags ≠ [] → [space].intercalate tags ≠ [] ∧ tab ∉ [space].intercalate tags ∧
    newline ∉ [space].intercalate tags

/-- Every card is in both exports, with all its fields. -/
structure LosesNoCard (deckName : JsString) (cards : List AnkiCard) (tags : List JsString) :
    Prop where
  apkg : ∀ seedTs, ∃ collection, exportApkg deckName seedTs cards = some collection ∧
    (collection.notes.map Note.id).Nodup ∧ (collection.cards.map Card.id).Nodup ∧
    collection.notes.map (·.flds.splitOn unitSeparator) =
      cards.map fun card => [card.front, card.back]
  tsv : (tsvLines (exportTsv cards tags)).map (List.splitOn tab) = cards.map (columns tags)

/-- The ids differ, and the texts keep clear of the separators. -/
structure KeepsApart (deckName : JsString) (cards : List AnkiCard) (tags : List JsString) :
    Prop where
  noteIds : DistinctIds "note:" deckName cards.length
  cardIds : DistinctIds "card:" deckName cards.length
  fields : ∀ card ∈ cards, unitSeparator ∉ card.front ∧ unitSeparator ∉ card.back
  tags : cards ≠ [] → TagColumn tags

theorem not_mem_sanitizeField (text : JsString) :
    tab ∉ sanitizeField text ∧ newline ∉ sanitizeField text := by
  have apart (unit : UInt16) (noTab : unit ≠ tab) :
      ∀ written ∈ if unit = newline then ascii "<br>" else [unit],
        written ≠ tab ∧ written ≠ newline := by
    split
    · simp [ascii, tab, newline]
    · next other =>
      rw [forall_mem_singleton]
      exact ⟨noTab, other⟩
  have all (written : UInt16) (mem : written ∈ sanitizeField text) :
      written ≠ tab ∧ written ≠ newline := by
    obtain ⟨_, isUnit, inPiece⟩ := mem_flatMap.mp mem
    obtain ⟨unit, _, rfl⟩ := mem_map.mp isUnit
    refine apart _ ?_ written inPiece
    split
    · decide
    · assumption
  exact ⟨fun mem => (all tab mem).1 rfl, fun mem => (all newline mem).2 rfl⟩

section Tsv

variable {cards : List AnkiCard} {tags : List JsString}

theorem columns_apart (column : TagColumn tags) (card : AnkiCard) :
    ∀ piece ∈ columns tags card, tab ∉ piece ∧ newline ∉ piece := by
  intro piece mem
  rcases mem_append.mp mem with isField | isTags
  · simp only [mem_cons, not_mem_nil, or_false] at isField
    rcases isField with rfl | rfl <;> exact not_mem_sanitizeField _
  · split at isTags
    · cases isTags
    · next someTags =>
      rw [mem_singleton.mp isTags]
      exact (column someTags).2

theorem tsvLine_eq (column : TagColumn tags) (card : AnkiCard) :
    tsvLine ([space].intercalate tags) card = [tab].intercalate (columns tags card) := by
  unfold tsvLine columns
  rcases eq_or_ne tags [] with rfl | someTags
  · simp [intercalate_cons_cons]
  · rw [if_neg (column someTags).1, if_neg someTags]
    simp [intercalate_cons_cons]

theorem newline_not_mem_tsvLine (column : TagColumn tags) (card : AnkiCard) :
    newline ∉ tsvLine ([space].intercalate tags) card := by
  have tagStr : newline ∉ [space].intercalate tags := by
    rcases eq_or_ne tags [] with rfl | someTags
    · simp [List.intercalate]
    · exact (column someTags).2.2
  unfold tsvLine
  split <;> simp [not_mem_sanitizeField, tagStr, show newline ≠ tab by decide]

theorem tsvLine_ne_nil (tagStr : JsString) (card : AnkiCard) : tsvLine tagStr card ≠ [] := by
  unfold tsvLine
  split <;> simp

theorem columns_exportTsv (column : TagColumn tags) :
    (tsvLines (exportTsv cards tags)).map (List.splitOn tab) = cards.map (columns tags) := by
  cases cards with
  | nil => rfl
  | cons card rest =>
    have lines : (exportTsv (card :: rest) tags).splitOn newline =
        (card :: rest).map (tsvLine ([space].intercalate tags)) :=
      (splitOn_intercalate_iff (by simp)).mpr <| forall_mem_map.mpr fun other _ =>
        newline_not_mem_tsvLine column other
    have someText : exportTsv (card :: rest) tags ≠ [] := by
      intro empty
      rw [empty, splitOn_nil, map_cons] at lines
      exact tsvLine_ne_nil _ card (List.cons.inj lines).1.symm
    rw [tsvLines, if_neg someText, lines, map_map]
    refine map_congr_left fun other _ => ?_
    rw [Function.comp_apply, tsvLine_eq column]
    exact (splitOn_intercalate_iff (by simp [columns])).mpr fun piece mem =>
      (columns_apart column other piece mem).1

theorem columns_exportTsv_iff :
    (tsvLines (exportTsv cards tags)).map (List.splitOn tab) = cards.map (columns tags) ↔
      (cards ≠ [] → TagColumn tags) := by
  constructor
  · intro readBack someCards someTags
    obtain ⟨card, isCard⟩ := exists_mem_of_ne_nil cards someCards
    have isColumns : columns tags card ∈ cards.map (columns tags) := mem_map_of_mem isCard
    rw [← readBack] at isColumns
    obtain ⟨line, isLine, isSplit⟩ := mem_map.mp isColumns
    have isTags : [space].intercalate tags ∈ line.splitOn tab := by simp [isSplit, columns, someTags]
    rw [splitOn_eq_splitOnP] at isTags
    refine ⟨fun empty => ?_, fun inTags => ?_, fun inTags => ?_⟩
    · have without : exportTsv cards tags = exportTsv cards [] := by
        unfold exportTsv
        rw [empty]
        rfl
      rw [without, columns_exportTsv (absurd rfl), map_inj_left] at readBack
      simpa [columns, someTags] using readBack card isCard
    · simpa using notBlank_of_mem_splitOnP isTags tab inTags
    · unfold tsvLines at isLine
      split at isLine
      · cases isLine
      · rw [splitOn_eq_splitOnP] at isLine
        simpa using notBlank_of_mem_splitOnP isLine newline (mem_of_mem_splitOnP isTags inTags)
  · intro column
    rcases eq_or_ne cards [] with rfl | someCards
    · rfl
    · exact columns_exportTsv (column someCards)

end Tsv

/-- No card is lost exactly if the ids differ and the texts keep clear of the
separators. -/
theorem losesNoCard_iff (deckName : JsString) (cards : List AnkiCard) (tags : List JsString) :
    LosesNoCard deckName cards tags ↔ KeepsApart deckName cards tags := by
  have fields : (cards.map fun card => (card.front ++ unitSeparator :: card.back).splitOn
      unitSeparator) = (cards.map fun card => [card.front, card.back]) ↔
      ∀ card ∈ cards, unitSeparator ∉ card.front ∧ unitSeparator ∉ card.back := by
    rw [map_inj_left]
    refine forall₂_congr fun card _ => ?_
    have joined : ([unitSeparator].intercalate [card.front, card.back]).splitOn unitSeparator =
        [card.front, card.back] ↔ _ := splitOn_intercalate_iff (cons_ne_nil _ _)
    simpa [List.intercalate] using joined
  have flds (seedTs : Int) :
      (rowsOf deckName seedTs cards).notes.map (·.flds.splitOn unitSeparator) =
        cards.map fun card => (card.front ++ unitSeparator :: card.back).splitOn unitSeparator := by
    conv_rhs => rw [← zipIdx_map_fst 0 cards]
    simp only [rowsOf, map_map]
    rfl
  constructor
  · intro noLoss
    obtain ⟨collection, exported, _, _, isFlds⟩ := noLoss.apkg 0
    obtain ⟨⟨noteIds, cardIds⟩, rfl⟩ := exportApkg_eq_some_iff.mp exported
    rw [flds, fields] at isFlds
    exact ⟨noteIds, cardIds, isFlds, columns_exportTsv_iff.mp noLoss.tsv⟩
  · intro apart
    refine ⟨fun seedTs => ⟨_, exportApkg_eq_some_iff.mpr ⟨⟨apart.noteIds, apart.cardIds⟩, rfl⟩, ?_⟩,
      columns_exportTsv_iff.mpr apart.tags⟩
    rw [ids_rowsOf.1, ids_rowsOf.2, flds, fields]
    exact ⟨apart.noteIds, apart.cardIds, apart.fields⟩

/-- A front with a unit separator is two fields. -/
theorem front_split : ¬ ∀ deckName cards tags, LosesNoCard deckName cards tags := by
  intro noLoss
  obtain ⟨_, exported, _, _, flds⟩ := (noLoss [] [⟨[unitSeparator], [], none⟩] []).apkg 0
  obtain ⟨_, rfl⟩ := exportApkg_eq_some_iff.mp exported
  exact absurd flds (by decide)

end OhMyClass.Flashcards
