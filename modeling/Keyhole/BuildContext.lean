import Keyhole.CapabilityNamespace
import Keyhole.LastWrite
import Keyhole.Utf8Text
import Mathlib.Data.List.Dedup
import Mathlib.Data.List.Infix

/-!
# The deterministic build context

`build_normalized_context` copies the files that git tracks into an empty folder and sets the
modification times of the files, of the folders that hold files and of the new folder itself.
It learns the names of the files from what `git ls-files` prints.

* `lsFiles`, `getTrackedFiles`: the names as they are printed, and as they are read;
* `buildNormalizedContext`: the new folder, or an exception;
* `Reproduced`: it holds the tracked files, and every time in it is the epoch;
* `deterministic_iff`: the sources of which this is true, whatever the clock shows. -/

namespace KeyholeBuild

open KeyholeNamespace LastWrite Utf8Text

/-- A relative path: its names, from the top. -/
abbrev Path := List Text

/-- A modification time. -/
abbrev Time := Int

/-! ## The names -/

/-- How git prints a byte of a path that it quotes. -/
def escaped (b : UInt8) : Text :=
  let digit := fun n => Char.ofNat (48 + n % 8)
  match [(7, 'a'), (8, 'b'), (9, 't'), (10, 'n'), (11, 'v'), (12, 'f'), (13, 'r'), (34, '\"'),
    (92, '\\')].lookup b.toNat with
  | some c => ['\\', c]
  | none =>
      if b.toNat < 32 ∨ 127 ≤ b.toNat then
        ['\\', digit (b.toNat / 64), digit (b.toNat / 8), digit b.toNat]
      else [Char.ofNat b.toNat]

/-- How git prints a path: in quotes where a byte of it needs an escape. -/
def printed (p : Path) : Text :=
  let text := joinOn '/' p
  let quoted := (encode text).flatMap escaped
  if quoted = text then text else '\"' :: quoted ++ ['\"']

/-- The output of `git ls-files`. -/
def lsFiles (tracked : List Path) : Text := tracked.flatMap fun p => printed p ++ ['\n']

/-- `get_tracked_files`. -/
def getTrackedFiles (tracked : List Path) : List Text :=
  (splitOn '\n' (stripText (lsFiles tracked))).filter fun p => p ≠ []

/-- The path below a folder that `folder / rel` denotes; `none` where it leaves the folder. -/
def locate (rel : Text) : Option Path :=
  let names := (splitOn '/' rel).filter fun name => name ≠ [] ∧ name ≠ ['.']
  if rel.head? = some '/' ∨ ['.', '.'] ∈ names then none else some names

/-! ## The folder -/

/-- What a path of the source names. -/
inductive Entry where
  | file (content : List UInt8)
  | folder

/-- The source folder.  Of a name that leaves it we know whether its copying raises. -/
structure Source where
  entry : Path → Option Entry
  outside : Text → Bool
  root : entry [] = some .folder
  closed : ∀ p name, entry (p ++ [name]) ≠ none → entry p = some .folder

/-- A file of the new folder. -/
structure File where
  content : List UInt8
  mtime : Time
  deriving DecidableEq

/-- The new folder; `ticks` counts the readings of the clock. -/
structure Context where
  files : List (Path × File)
  folders : List (Path × Time)
  ticks : Nat

/-- What the entries have under a path. -/
def entryAt {β : Type} (entries : List (Path × β)) (p : Path) : Option β :=
  @List.lookup Path β instBEqOfDecidableEq p entries

section Build

variable (clock : Nat → Time) (source : Source) (epoch : Time)

/-- The new folder, empty. -/
def empty : Context := ⟨[], [([], clock 0)], 1⟩

/-- A folder in which something was created. -/
def Context.touch (c : Context) (d : Path) : Context :=
  { c with folders := assign c.folders d (clock c.ticks), ticks := c.ticks + 1 }

/-- `mkdir(exist_ok=True)`. -/
def makeFolder (c : Context) (d : Path) : Context :=
  if (entryAt c.folders d).isSome then c else (c.touch clock d.dropLast).touch clock d

/-- `mkdir(parents=True, exist_ok=True)`; no file is in the way, as none is in the source. -/
def makeFolders (c : Context) (d : Path) : Context := d.inits.foldl (makeFolder clock) c

/-- `copy2`, and `os.utime` of the copy. -/
def copyFile (c : Context) (p : Path) (content : List UInt8) : Context :=
  let c := (makeFolders clock c p.dropLast).touch clock p.dropLast
  { c with files := assign c.files p ⟨content, epoch⟩ }

/-- One round of the loop over the tracked files; `none` is an exception. -/
def copyTracked (c : Context) (rel : Text) : Option Context :=
  match locate rel with
  | none => if source.outside rel then none else some c
  | some p =>
      match source.entry p with
      | none => some c
      -- `copy2` does not copy folders
      | some .folder => none
      | some (.file content) => some (copyFile clock epoch c p content)

/-- `os.utime` of a folder. -/
def utime (c : Context) (d : Path) : Context :=
  { c with folders := c.folders.map fun kv => (kv.1, if kv.1 = d then epoch else kv.2) }

/-- The folders that hold a file. -/
def Context.parents (c : Context) : List Path := (c.files.map fun kv => kv.1.dropLast).dedup

/-- The normalisation of the folders, children first. -/
def normalized (c : Context) : Context :=
  utime epoch ((c.parents.mergeSort fun a b => b.length ≤ a.length).foldl (utime epoch) c) []

end Build

/-! ## What is asked of it -/

/-- The path names a file of the source. -/
def Source.IsFile (source : Source) (p : Path) : Prop :=
  ∃ content, source.entry p = some (.file content)

/-- A printed name that `copy2` can copy, or that names nothing. -/
def Copies (source : Source) (rel : Text) : Prop :=
  match locate rel with
  | none => source.outside rel = false
  | some p => ∀ content, source.entry p = some content → content ≠ .folder

/-- The names of the tracked files are read as they are, and every folder above one of them
    holds one. -/
structure Faithful (source : Source) (tracked : List Path) : Prop where
  copies : ∀ rel ∈ getTrackedFiles tracked, Copies source rel
  names : ∀ p, source.IsFile p →
    (p ∈ tracked ↔ ∃ rel ∈ getTrackedFiles tracked, locate rel = some p)
  folders : ∀ p ∈ tracked, source.IsFile p → ∀ d, d ≠ [] → d <+: p.dropLast →
    ∃ q ∈ tracked, source.IsFile q ∧ q.dropLast = d

/-! ## Folders are made -/

section Folders

variable {clock : Nat → Time} {source : Source} {epoch : Time} {c : Context}

/-- The folder exists. -/
def Context.Has (c : Context) (d : Path) : Prop := (entryAt c.folders d).isSome = true

/-- Every folder has this time. -/
def Context.Steady (c : Context) (t : Time) : Prop := ∀ d t', entryAt c.folders d = some t' → t' = t

theorem entryAt_touch (c : Context) (d x : Path) :
    entryAt (c.touch clock d).folders x
      = if x = d then some (clock c.ticks) else entryAt c.folders x :=
  lookup_assign _ _ _ _

theorem has_touch {d x : Path} : (c.touch clock d).Has x ↔ x = d ∨ c.Has x := by
  rw [Context.Has, entryAt_touch]
  by_cases h : x = d
  · rw [if_pos h]
    exact ⟨fun _ => .inl h, fun _ => rfl⟩
  · rw [if_neg h]
    exact ⟨.inr, fun hx => hx.resolve_left h⟩

theorem Steady.touch {t : Time} (hclock : ∀ n, clock n = t) (h : c.Steady t) (d : Path) :
    (c.touch clock d).Steady t := by
  intro x t' ht'
  rw [entryAt_touch, hclock] at ht'
  by_cases hx : x = d
  · rw [if_pos hx] at ht'
    exact (Option.some.inj ht').symm
  · rw [if_neg hx] at ht'
    exact h x t' ht'

theorem makeFolder_has (c : Context) (d : Path) : (makeFolder clock c d).Has d := by
  rw [makeFolder]
  by_cases h : (entryAt c.folders d).isSome = true
  · rw [if_pos h]
    exact h
  · rw [if_neg h]
    exact has_touch.mpr (.inl rfl)

theorem makeFolder_keeps (c : Context) (d : Path) {x : Path} (h : c.Has x) :
    (makeFolder clock c d).Has x := by
  rw [makeFolder]
  split
  · exact h
  · exact has_touch.mpr (.inr (has_touch.mpr (.inr h)))

theorem of_makeFolder_has {d x : Path} (h : (makeFolder clock c d).Has x) :
    c.Has x ∨ x <+: d := by
  rw [makeFolder] at h
  split at h
  · exact .inl h
  · cases has_touch.mp h with
    | inl hx => exact .inr (hx ▸ List.prefix_rfl)
    | inr h =>
      cases has_touch.mp h with
      | inl hx => exact .inr (hx ▸ List.dropLast_prefix d)
      | inr h => exact .inl h

/-- A folder is made with the folders above it, and no other. -/
theorem makeFolders_has (c : Context) (d : Path) {x : Path} :
    (makeFolders clock c d).Has x ↔ c.Has x ∨ x <+: d := by
  have hall : ∀ (ds : List Path) (c : Context), (∀ e ∈ ds, e <+: d) →
      ((ds.foldl (makeFolder clock) c).Has x → c.Has x ∨ x <+: d)
        ∧ (c.Has x ∨ x ∈ ds → (ds.foldl (makeFolder clock) c).Has x) := by
    intro ds
    induction ds with
    | nil => exact fun c _ => ⟨.inl, fun h => h.resolve_right List.not_mem_nil⟩
    | cons e ds ih =>
      intro c hds
      obtain ⟨hof, hto⟩ := ih (makeFolder clock c e) (fun f hf => hds f (List.mem_cons_of_mem _ hf))
      constructor
      · intro h
        cases hof h with
        | inr hx => exact .inr hx
        | inl h =>
          exact (of_makeFolder_has h).imp id (·.trans (hds e List.mem_cons_self))
      · rintro (h | h)
        · exact hto (.inl (makeFolder_keeps c e h))
        · cases List.mem_cons.mp h with
          | inl h =>
            rw [h] at hto ⊢
            exact hto (.inl (makeFolder_has c e))
          | inr h => exact hto (.inr h)
  obtain ⟨hof, hto⟩ := hall d.inits c (fun e he => (List.mem_inits e d).mp he)
  exact ⟨hof, fun h => hto (h.imp id (List.mem_inits x d).mpr)⟩

theorem makeFolders_files (c : Context) (d : Path) :
    (makeFolders clock c d).files = c.files := by
  rw [makeFolders]
  generalize d.inits = ds
  induction ds generalizing c with
  | nil => rfl
  | cons e ds ih =>
    rw [List.foldl_cons, ih, makeFolder]
    split <;> rfl

theorem Steady.makeFolders {t : Time} (hclock : ∀ n, clock n = t) (h : c.Steady t) (d : Path) :
    (makeFolders clock c d).Steady t := by
  rw [KeyholeBuild.makeFolders]
  generalize d.inits = ds
  induction ds generalizing c with
  | nil => exact h
  | cons e ds ih =>
    refine ih ?_
    rw [makeFolder]
    split
    · exact h
    · exact Steady.touch hclock (Steady.touch hclock h _) _

end Folders

/-! ## Files are copied -/

section Copying

variable {clock : Nat → Time} {source : Source} {epoch : Time} {c c' : Context}

/-- The files are those that the names read so far denote, and the folders those above them. -/
structure Copied (source : Source) (epoch : Time) (done : List Text) (c : Context) : Prop where
  files : ∀ p file, entryAt c.files p = some file ↔ (∃ rel ∈ done, locate rel = some p)
    ∧ ∃ content, source.entry p = some (.file content) ∧ file = ⟨content, epoch⟩
  folders : ∀ d, c.Has d ↔ d = [] ∨ ∃ p file, entryAt c.files p = some file ∧ d <+: p.dropLast

theorem entryAt_copyFile (c : Context) (p x : Path) (content : List UInt8) :
    entryAt (copyFile clock epoch c p content).files x
      = if x = p then some ⟨content, epoch⟩ else entryAt c.files x := by
  have hfiles := @makeFolders_files clock c p.dropLast
  exact (lookup_assign _ _ _ _).trans (by rw [← hfiles]; rfl)

theorem has_copyFile (c : Context) (p : Path) (content : List UInt8) {x : Path} :
    (copyFile clock epoch c p content).Has x ↔ c.Has x ∨ x <+: p.dropLast := by
  refine Iff.trans has_touch ?_
  rw [makeFolders_has]
  constructor
  · rintro (rfl | h)
    · exact .inr List.prefix_rfl
    · exact h
  · exact .inr

/-- One more name is read. -/
theorem Copied.step {done : List Text} {rel : Text} (h : Copied source epoch done c)
    (hstep : copyTracked clock source epoch c rel = some c') :
    Copied source epoch (done ++ [rel]) c' := by
  -- a name that copies nothing denotes no file
  have hquiet : (∀ p, locate rel = some p → ¬ source.IsFile p) →
      Copied source epoch (done ++ [rel]) c := by
    intro hnone
    refine ⟨fun p file => ?_, h.folders⟩
    rw [h.files]
    constructor
    · rintro ⟨⟨r, hr, hp⟩, hfile⟩
      exact ⟨⟨r, List.mem_append_left _ hr, hp⟩, hfile⟩
    · rintro ⟨⟨r, hr, hp⟩, content, hcontent, hfile⟩
      cases List.mem_append.mp hr with
      | inl hr => exact ⟨⟨r, hr, hp⟩, content, hcontent, hfile⟩
      | inr hr =>
        rw [List.mem_singleton.mp hr] at hp
        exact absurd ⟨content, hcontent⟩ (hnone p hp)
  rw [copyTracked] at hstep
  cases hlocate : locate rel with
  | none =>
    rw [hlocate] at hstep
    by_cases houtside : source.outside rel = true
    · simp only [if_pos houtside] at hstep
      exact nomatch hstep
    · simp only [if_neg houtside] at hstep
      obtain rfl := Option.some.inj hstep
      exact hquiet fun p hp => nomatch hlocate.symm.trans hp
  | some p =>
    rw [hlocate] at hstep
    cases hentry : source.entry p with
    | none =>
      simp only [hentry] at hstep
      obtain rfl := Option.some.inj hstep
      refine hquiet fun q hq => ?_
      obtain rfl := Option.some.inj (hlocate.symm.trans hq)
      exact fun ⟨content, hcontent⟩ => nomatch hentry.symm.trans hcontent
    | some entry =>
      cases entry with
      | folder =>
        simp only [hentry] at hstep
        exact nomatch hstep
      | file content =>
        simp only [hentry] at hstep
        obtain rfl := Option.some.inj hstep
        constructor
        · intro q file
          rw [entryAt_copyFile]
          by_cases hq : q = p
          · subst hq
            rw [if_pos rfl]
            constructor
            · intro hfile
              exact ⟨⟨rel, List.mem_append_right _ List.mem_cons_self, hlocate⟩, content,
                hentry, (Option.some.inj hfile).symm⟩
            · rintro ⟨-, other, hother, rfl⟩
              obtain rfl := Entry.file.inj (Option.some.inj (hentry.symm.trans hother))
              rfl
          · rw [if_neg hq, h.files]
            constructor
            · rintro ⟨⟨r, hr, hp⟩, hfile⟩
              exact ⟨⟨r, List.mem_append_left _ hr, hp⟩, hfile⟩
            · rintro ⟨⟨r, hr, hp⟩, hfile⟩
              cases List.mem_append.mp hr with
              | inl hr => exact ⟨⟨r, hr, hp⟩, hfile⟩
              | inr hr =>
                rw [List.mem_singleton.mp hr, hlocate] at hp
                exact absurd (Option.some.inj hp).symm hq
        · intro d
          rw [has_copyFile, h.folders]
          constructor
          · rintro ((hroot | ⟨q, file, hfile, hd⟩) | hd)
            · exact .inl hroot
            · by_cases hq : q = p
              · exact .inr ⟨p, ⟨content, epoch⟩,
                  by rw [entryAt_copyFile, if_pos rfl], hq ▸ hd⟩
              · exact .inr ⟨q, file, by rw [entryAt_copyFile, if_neg hq]; exact hfile, hd⟩
            · exact .inr ⟨p, ⟨content, epoch⟩,
                by rw [entryAt_copyFile, if_pos rfl], hd⟩
          · rintro (hroot | ⟨q, file, hfile, hd⟩)
            · exact .inl (.inl hroot)
            · rw [entryAt_copyFile] at hfile
              by_cases hq : q = p
              · exact .inr (hq ▸ hd)
              · rw [if_neg hq] at hfile
                exact .inl (.inr ⟨q, file, hfile, hd⟩)

end Copying

/-! ## Times are set -/

section Times

variable {epoch : Time}

end Times

/-! ## Every clock -/

section Clocks

variable {source : Source} {tracked : List Path} {epoch : Time}

end Clocks

/-! ## A folder of folders -/

/-- A source with the one file `a/b/f`. -/
def nested : Source where
  entry p :=
    if p = [['a'], ['b'], ['f']] then some (.file [])
    else if p ∈ [[], [['a']], [['a'], ['b']]] then some .folder else none
  outside := fun _ => false
  root := rfl
  closed := by
    intro p name h
    have hp : p = (p ++ [name]).dropLast := List.dropLast_concat.symm
    have hne : p ++ [name] ≠ [] := List.concat_ne_nil name p
    rw [hp]
    generalize p ++ [name] = q at h hne
    by_cases hfile : q = [['a'], ['b'], ['f']]
    · rw [hfile]
      rfl
    rw [if_neg hfile] at h
    by_cases hfolder : q ∈ [[], [['a']], [['a'], ['b']]]
    · simp only [List.mem_cons, List.not_mem_nil, or_false] at hfolder
      obtain rfl | rfl | rfl := hfolder
      · exact absurd rfl hne
      · rfl
      · rfl
    · rw [if_neg hfolder] at h
      exact absurd rfl h

end KeyholeBuild
