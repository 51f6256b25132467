import Mathlib.Data.List.Basic
import Mathlib.Tactic.TypeStar

/-!
# The evidence bundle hash

`hash_evidence_files` feeds the files of a bundle, sorted by path, to one SHA-256 state: the
bytes of a file's name, then the bytes of the file, and nothing between them.  The hash
therefore knows the run of bytes, not where a name ends, nor where a file does.

* `hashEvidenceFiles`: the hash, over any digest of a byte string;
* `Binds`: what equal hashes of two bundles are to say;
* `binds_iff`: two bundles keep to it, unless one is the other cut at other places. -/

namespace KeyholeEvidence

abbrev Bytes := List UInt8

/-- The parts of a `Path`, each a file name's characters. -/
abbrev EvidencePath := List (List Char)

/-- `path.name`: the last part, empty where there is none. -/
def pathName (path : EvidencePath) : List Char := path.getLastD []

/-- `text.encode("utf-8")`. -/
def encodeUtf8 (text : List Char) : Bytes := text.flatMap String.utf8EncodeChar

/-- Code point order of two file names. -/
def nameBefore : List Char → List Char → Bool
  | [], [] => false
  | [], _ :: _ => true
  | _ :: _, [] => false
  | x :: xs, y :: ys => x.val < y.val || (x == y && nameBefore xs ys)

/-- Paths compare part by part. -/
def pathBefore : EvidencePath → EvidencePath → Bool
  | [], [] => false
  | [], _ :: _ => true
  | _ :: _, [] => false
  | x :: xs, y :: ys => nameBefore x y || (x == y && pathBefore xs ys)

/-- `sorted(...)`, which is stable and only asks whether one path is less than another. -/
def sortedPaths (paths : List EvidencePath) : List EvidencePath :=
  paths.mergeSort fun a b => ! pathBefore b a

/-- The files handed in and what reading them gives; `none` raises `OSError`. -/
structure Bundle where
  paths : List EvidencePath
  readBytes : EvidencePath → Option Bytes

/-- What the loop reads of one file. -/
def Bundle.entry (bundle : Bundle) (path : EvidencePath) : Option (List Char × Bytes) :=
  (bundle.readBytes path).map fun content => (pathName path, content)

/-- The (name, content) pairs in the order of the paths. -/
def Bundle.entries (bundle : Bundle) : Option (List (List Char × Bytes)) :=
  (sortedPaths bundle.paths).mapM bundle.entry

/-- All `digest.update` calls run together. -/
def updates (entries : List (List Char × Bytes)) : Bytes :=
  entries.flatMap fun entry => encodeUtf8 entry.1 ++ entry.2

variable {Digest : Type*} (sha256 : Bytes → Digest)

/-- `hash_evidence_files`. -/
def hashEvidenceFiles (bundle : Bundle) : Option Digest :=
  bundle.entries.map fun entries => sha256 (updates entries)

/-- Equal hashes stand for equal sequences of names and contents. -/
def Binds (bundle other : Bundle) : Prop :=
  ∀ digest, hashEvidenceFiles sha256 bundle = some digest →
    hashEvidenceFiles sha256 other = some digest → bundle.entries = other.entries

/-- Where the names and the contents end. -/
def cuts (entries : List (List Char × Bytes)) : List (Nat × Nat) :=
  entries.map fun entry => ((encodeUtf8 entry.1).length, entry.2.length)

/-- Both bundles are the same run of bytes, cut into names and contents at different places. -/
def Recut (bundle other : Bundle) : Prop :=
  ∃ entries entries', bundle.entries = some entries ∧ other.entries = some entries' ∧
    updates entries = updates entries' ∧ cuts entries ≠ cuts entries'

/-! ## A run of bytes and its cuts determine the entries -/

theorem encodeUtf8_injective {a b : List Char} (h : encodeUtf8 a = encodeUtf8 b) : a = b := by
  have hbytes : a.utf8Encode = b.utf8Encode := congrArg List.toByteArray h
  have hstring : String.ofList a = String.ofList b := String.toByteArray_inj.mp hbytes
  exact String.ofList_injective hstring

theorem entries_of_cuts : ∀ {entries entries' : List (List Char × Bytes)},
    updates entries = updates entries' → cuts entries = cuts entries' → entries = entries' := by
  intro entries
  induction entries with
  | nil =>
    intro entries' _ hcuts
    cases entries' with
    | nil => rfl
    | cons entry rest => exact nomatch hcuts
  | cons entry rest ih =>
    intro entries' hbytes hcuts
    cases entries' with
    | nil => exact nomatch hcuts
    | cons entry' rest' =>
      obtain ⟨name, content⟩ := entry
      obtain ⟨name', content'⟩ := entry'
      have hcut : ((encodeUtf8 name).length, content.length) =
          ((encodeUtf8 name').length, content'.length) := (List.cons.inj hcuts).1
      have hlater : cuts rest = cuts rest' := (List.cons.inj hcuts).2
      obtain ⟨hnameLength, hcontentLength⟩ := Prod.mk.inj hcut
      have hrun : encodeUtf8 name ++ (content ++ updates rest) =
          encodeUtf8 name' ++ (content' ++ updates rest') := by
        rw [← List.append_assoc, ← List.append_assoc]
        exact hbytes
      obtain ⟨hname, htail⟩ := List.append_inj hrun hnameLength
      obtain ⟨hcontent, hrest⟩ := List.append_inj htail hcontentLength
      rw [encodeUtf8_injective hname, hcontent, ih hrest hlater]

theorem hashEvidenceFiles_eq_some {bundle : Bundle} {digest : Digest} :
    hashEvidenceFiles sha256 bundle = some digest ↔
      ∃ entries, bundle.entries = some entries ∧ sha256 (updates entries) = digest := by
  unfold hashEvidenceFiles
  rw [Option.map_eq_some_iff]

/-! ## The bundles a hash tells apart -/

/-- A collision-free digest binds names to contents on two bundles, unless one is the other cut
    at other places. -/
theorem binds_iff (hfree : Function.Injective sha256) (bundle other : Bundle) :
    Binds sha256 bundle other ↔ ¬ Recut bundle other := by
  constructor
  · rintro h ⟨entries, entries', hentries, hentries', hrun, hcuts⟩
    have hsame := h (sha256 (updates entries))
      ((hashEvidenceFiles_eq_some sha256).mpr ⟨entries, hentries, rfl⟩)
      ((hashEvidenceFiles_eq_some sha256).mpr ⟨entries', hentries', by rw [hrun]⟩)
    rw [hentries, hentries'] at hsame
    exact hcuts (congrArg cuts (Option.some.inj hsame))
  · intro h digest hhash hhash'
    obtain ⟨entries, hentries, hdigest⟩ := (hashEvidenceFiles_eq_some sha256).mp hhash
    obtain ⟨entries', hentries', hdigest'⟩ := (hashEvidenceFiles_eq_some sha256).mp hhash'
    have hrun : updates entries = updates entries' := hfree (hdigest.trans hdigest'.symm)
    have hcuts : cuts entries = cuts entries' := by
      by_contra hcuts
      exact h ⟨entries, entries', hentries, hentries', hrun, hcuts⟩
    rw [hentries, hentries', entries_of_cuts hrun hcuts]

/-- One file at the working directory's top. -/
def oneFile (name : List Char) (content : Bytes) : Bundle where
  paths := [[name]]
  readBytes := fun path => if path = [name] then some content else none

theorem oneFile_entries (name : List Char) (content : Bytes) :
    (oneFile name content).entries = some [(name, content)] := by
  unfold Bundle.entries sortedPaths oneFile
  rw [List.mergeSort_singleton]
  simp [Bundle.entry, pathName]

/-- A file `a` that holds `bc` and a file `ab` that holds `c` have one hash. -/
theorem name_byte_moved :
    ¬ ∀ (digest : Bytes → Bytes), Function.Injective digest →
      Binds digest (oneFile ['a'] [98, 99]) (oneFile ['a', 'b'] [99]) := by
  intro h
  have hsame := h id Function.injective_id [97, 98, 99]
    (by unfold hashEvidenceFiles; rw [oneFile_entries]; decide)
    (by unfold hashEvidenceFiles; rw [oneFile_entries]; decide)
  rw [oneFile_entries, oneFile_entries] at hsame
  exact absurd hsame (by decide)

theorem binds_two_files :
    Function.Injective (id : Bytes → Bytes) ∧
    (Binds (id : Bytes → Bytes) (oneFile ['a'] [98, 99]) (oneFile ['a', 'b'] [99]) ↔
      ¬ Recut (oneFile ['a'] [98, 99]) (oneFile ['a', 'b'] [99])) :=
  ⟨Function.injective_id, binds_iff id Function.injective_id _ _⟩

end KeyholeEvidence
