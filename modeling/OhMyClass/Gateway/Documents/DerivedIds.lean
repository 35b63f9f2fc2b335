import OhMyClass.Gateway.Documents.Edits

/-!
# Derived artifact ids

The id of a derived artifact is the id of its source, two dashes and a suffix,
cut to 80 characters.  It names one derivation exactly if one character is left
over: an id of 80 characters is derived from itself.
-/

namespace OhMyClass.Gateway.Documents

open List OhMyClass.Contracts

/-- The artifact ids a document may have. -/
abbrev ArtifactId := {id : String // ArtifactDocument.isIdText id}

inductive DerivationKind where
  | languageVersion (targetLanguage : DocumentLanguage)
  | contentVariant (variantKind : VariantKind)
  deriving DecidableEq

def DerivationKind.suffix : DerivationKind → String
  | languageVersion targetLanguage => "lang-" ++ targetLanguage.text
  | contentVariant variantKind => "variant-" ++ variantKind.text

/-- The id before it is cut. -/
def wholeId (sourceArtifactId : String) (kind : DerivationKind) : List Char :=
  sourceArtifactId.toList ++ ("--" ++ kind.suffix).toList

section Words

variable {α : Type*} {n : Nat} {word other : List α}

theorem eq_of_take_eq (same : word.take n = other) (short : other.length < n) : word = other := by
  rw [← same, length_take] at short
  rw [← same, take_of_length_le (by omega)]

theorem take_append_of_length_eq (full : word.length = n) : (word ++ other).take n = word := by
  rw [← full, take_left]

end Words

variable {source other : String} {kind otherKind : DerivationKind}

theorem toList_derivedArtifactId (source : String) (kind : DerivationKind) :
    (derivedArtifactId source kind.suffix).toList = (wholeId source kind).take 80 := by
  simp [derivedArtifactId, sliceTo, wholeId]

theorem length_wholeId (source : String) (kind : DerivationKind) :
    (wholeId source kind).length = source.length + 2 + kind.suffix.length := by
  have dashes : "--".toList.length = 2 := rfl
  rw [wholeId, length_append, String.toList_append, length_append, dashes,
    String.length_toList, String.length_toList, Nat.add_assoc]

theorem length_derivedArtifactId (source : String) (kind : DerivationKind) :
    (derivedArtifactId source kind.suffix).length =
      min 80 (source.length + 2 + kind.suffix.length) := by
  rw [← String.length_toList, toList_derivedArtifactId, length_take, length_wholeId]

theorem eq_of_suffix (ends : ("--" ++ kind.suffix).toList <:+ ("--" ++ otherKind.suffix).toList) :
    kind = otherKind := by
  revert ends
  rcases kind with (_ | _) | (_ | _ | _ | _) <;>
    rcases otherKind with (_ | _) | (_ | _ | _ | _) <;> decide

theorem wholeId_injective (same : wholeId source kind = wholeId other otherKind) :
    source = other ∧ kind = otherKind := by
  have isKind : kind = otherKind := by
    have ends : ("--" ++ kind.suffix).toList <:+ wholeId other otherKind := same ▸ ⟨_, rfl⟩
    have otherEnds : ("--" ++ otherKind.suffix).toList <:+ wholeId other otherKind := ⟨_, rfl⟩
    rcases suffix_or_suffix_of_suffix ends otherEnds with shorter | longer
    · exact eq_of_suffix shorter
    · exact (eq_of_suffix longer).symm
  subst isKind
  exact ⟨String.toList_injective (append_cancel_right same), rfl⟩

theorem derivedArtifactId_injective (fits : source.length + 2 + kind.suffix.length < 80)
    (same : derivedArtifactId source kind.suffix = derivedArtifactId other otherKind.suffix) :
    source = other ∧ kind = otherKind := by
  have texts := congrArg String.toList same
  rw [toList_derivedArtifactId, toList_derivedArtifactId, ← length_wholeId] at *
  rw [take_of_length_le fits.le] at texts
  exact wholeId_injective (eq_of_take_eq texts.symm fits).symm

theorem derivedArtifactId_of_length_eq (full : source.length = 80) (kind : DerivationKind) :
    derivedArtifactId source kind.suffix = source := by
  apply String.toList_injective
  rw [toList_derivedArtifactId, wholeId, take_append_of_length_eq]
  rw [String.length_toList, full]

theorem derivedArtifactId_ne (short : source.length < 80) (kind : DerivationKind) :
    derivedArtifactId source kind.suffix ≠ source := by
  intro same
  have lengths := congrArg String.length same
  rw [length_derivedArtifactId] at lengths
  omega

def DerivationKind.another : DerivationKind → DerivationKind
  | languageVersion .en => languageVersion .vi
  | _ => languageVersion .en

theorem DerivationKind.another_ne (kind : DerivationKind) : kind.another ≠ kind := by
  rcases kind with (_ | _) | _ <;> nofun

/-- A derivation has a lineage of its own exactly if its id leaves one character
over. -/
theorem derivation_owns_lineage_iff (source : ArtifactId) (kind : DerivationKind) :
    ((∀ (other : ArtifactId) (otherKind : DerivationKind),
        derivedArtifactId source.1 kind.suffix = derivedArtifactId other.1 otherKind.suffix →
          source = other ∧ kind = otherKind) ∧
      derivedArtifactId source.1 kind.suffix ≠ source.1) ↔
      source.1.length + 2 + kind.suffix.length < 80 := by
  constructor
  · rintro ⟨alone, _⟩
    by_contra cut
    have full : (derivedArtifactId source.1 kind.suffix).length = 80 := by
      rw [length_derivedArtifactId]
      omega
    -- the full id is derived from itself, for another purpose
    have accepted : ArtifactDocument.isIdText (derivedArtifactId source.1 kind.suffix) := by
      simp [ArtifactDocument.isIdText, full]
    have again := alone ⟨_, accepted⟩ kind.another
      (derivedArtifactId_of_length_eq full kind.another).symm
    exact kind.another_ne again.2.symm
  · intro fits
    constructor
    · intro other otherKind same
      obtain ⟨sameSource, sameKind⟩ := derivedArtifactId_injective fits same
      exact ⟨Subtype.ext sameSource, sameKind⟩
    · have short : source.1.length < 80 := by omega
      exact derivedArtifactId_ne short kind

/-- An id of 80 characters: both of its translations are the artifact itself. -/
theorem derived_ids_collide :
    ¬ ∀ (source other : ArtifactId) (kind otherKind : DerivationKind),
      (derivedArtifactId source.1 kind.suffix = derivedArtifactId other.1 otherKind.suffix →
        source = other ∧ kind.suffix = otherKind.suffix) ∧
      derivedArtifactId source.1 kind.suffix ≠ source.1 := by
  intro distinct
  have isFull : (String.ofList (List.replicate 80 'a')).length = 80 := by
    rw [String.length_ofList, length_replicate]
  have accepted : ArtifactDocument.isIdText (String.ofList (List.replicate 80 'a')) := by
    rfl
  have different := (distinct ⟨_, accepted⟩ ⟨_, accepted⟩ (.languageVersion .en)
    (.languageVersion .vi)).2
  exact different (derivedArtifactId_of_length_eq isFull _)

end OhMyClass.Gateway.Documents
