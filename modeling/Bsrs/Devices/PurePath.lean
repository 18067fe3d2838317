import Mathlib.Data.Char
import Mathlib.Data.List.Infix
import Bsrs.Library.Segments

/-! Paths on the host that writes the files: parsed, printed and joined by the rules of their own
flavor. -/

namespace Bsrs.Devices

open Bsrs.Library (cut cut_append cut_cases cut_unique segments kept_of_mem_segments
  clean_of_mem_segments absent_of_mem_segments clean_of_mem_splitOn)

abbrev Text := List Char

inductive Flavor where
  | posix
  | windows
deriving DecidableEq, Repr

def Flavor.sep : Flavor → Char
  | .posix => '/'
  | .windows => '\\'

/-- A part that a path keeps: neither empty nor `.`. -/
def isName (part : Text) : Bool :=
  !part.isEmpty && part != ['.']

/-- A name of a flavor's paths, which no separator is in. -/
def Named (flavor : Flavor) (part : Text) : Prop :=
  isName part = true ∧ '/' ∉ part ∧ flavor.sep ∉ part

instance (flavor : Flavor) (part : Text) : Decidable (Named flavor part) :=
  inferInstanceAs (Decidable (_ ∧ _))

@[ext]
structure PurePath where
  flavor : Flavor
  drive : Text
  root : Text
  parts : List Text
  named : ∀ part ∈ parts, Named flavor part
deriving DecidableEq

/-- The drive, the root and the rest that `splitroot` gives. -/
structure Split where
  drive : Text
  root : Text
  rest : Text
deriving DecidableEq, Repr

/-- posixpath `splitroot`: exactly two leading slashes are kept as the root. -/
def splitPosixRoot (path : Text) : Split :=
  if path.head? ≠ some '/' then ⟨[], [], path⟩
  else if (path.drop 1).head? ≠ some '/' ∨ (path.drop 2).head? = some '/' then
    ⟨[], ['/'], path.dropWhile (· == '/')⟩
  else ⟨[], ['/', '/'], path.drop 2⟩

/-- `path.replace('/', "\\")`. -/
def backslashed (path : Text) : Text :=
  path.map fun c => if c = '/' then '\\' else c

/-- Whether a path begins with `\\?\UNC\`, the case of ASCII letters ignored. -/
def isUnc (path : Text) : Bool :=
  (path.take 8).map Char.toLower == ['\\', '\\', '?', '\\', 'u', 'n', 'c', '\\']

/-- How much of a path that begins with `\\` is not looked through for a share. -/
def start (path : Text) : Nat :=
  if isUnc path then 8 else 2

/-- `\\server\share`, `\\?\UNC\server\share`, or a device `\\.\name`. -/
def splitShare (path : Text) : Split :=
  match cut '\\' (path.drop (start path)) with
  | none => ⟨path, [], []⟩
  | some (server, behind) =>
      match cut '\\' behind with
      | none => ⟨path, [], []⟩
      | some (share, rest) => ⟨path.take (start path) ++ server ++ '\\' :: share, ['\\'], rest⟩

def splitDrive : Text → Split
  | '\\' :: rest => ⟨[], ['\\'], rest⟩
  | letter :: ':' :: '\\' :: rest => ⟨[letter, ':'], ['\\'], rest⟩
  | letter :: ':' :: rest => ⟨[letter, ':'], [], rest⟩
  | path => ⟨[], [], path⟩

/-- ntpath `splitroot` of a path already separated by `\`. -/
def splitWindowsRoot (path : Text) : Split :=
  if path.take 2 = ['\\', '\\'] then splitShare path else splitDrive path

/-- pathlib's root on a drive `splitroot` left without one. -/
def windowsRoot (drive root : Text) : Text :=
  if root ≠ [] ∨ drive.head? ≠ some '\\' ∨ drive.getLast? = some '\\' then root
  else
    match drive.splitOn '\\' with
    | [_, _, third, _] => if third <:+: ['?', '.'] then root else ['\\']
    | [_, _, _, _, _, _] => ['\\']
    | _ => root

/-- A path as the rules of its flavor take it apart. -/
def normalize : Flavor → Text → Text
  | .posix, path => path
  | .windows, path => backslashed path

/-- The drive, root and rest of a path already separated as its flavor does. -/
def splitRoot : Flavor → Text → Split
  | .posix, path => splitPosixRoot path
  | .windows, path =>
      let split := splitWindowsRoot path
      { split with root := windowsRoot split.drive split.root }

/-- What the rules of a root leave is the end of the path. -/
theorem splitPosixRoot_rest (path : Text) : (splitPosixRoot path).rest <:+ path := by
  unfold splitPosixRoot
  split
  · exact List.suffix_rfl
  · split
    · exact List.dropWhile_suffix _
    · exact List.drop_suffix _ _

/-- The three pieces of a Windows path are the path. -/
theorem splitWindowsRoot_whole (path : Text) :
    (splitWindowsRoot path).drive ++ (splitWindowsRoot path).root ++ (splitWindowsRoot path).rest =
      path := by
  unfold splitWindowsRoot
  split
  · unfold splitShare
    rcases cut_cases '\\' (path.drop (start path)) with ⟨none, _⟩ | ⟨server, behind, found, _, whole⟩
    · simp [none]
    · rcases cut_cases '\\' behind with ⟨none, _⟩ | ⟨share, rest, again, _, split⟩
      · simp [found, none]
      · simp only [found, again]
        calc path.take (start path) ++ server ++ '\\' :: share ++ ['\\'] ++ rest
            = path.take (start path) ++ (server ++ '\\' :: (share ++ '\\' :: rest)) := by simp
          _ = path.take (start path) ++ path.drop (start path) := by rw [whole, split]
          _ = path := List.take_append_drop _ _
  · unfold splitDrive
    split <;> rfl

theorem slash_notMem_backslashed (path : Text) : '/' ∉ backslashed path := by
  intro inside
  obtain ⟨c, _, same⟩ := List.mem_map.mp inside
  split at same
  · cases same
  · contradiction

theorem backslashed_eq_self {path : Text} (clean : '/' ∉ path) : backslashed path = path := by
  have same : path.map (fun c => if c = '/' then '\\' else c) = path.map id :=
    List.map_congr_left fun c inside => if_neg (by rintro rfl; exact clean inside)
  rw [backslashed, same, List.map_id]

theorem splitRoot_rest (flavor : Flavor) (path : Text) : (splitRoot flavor path).rest <:+ path := by
  cases flavor with
  | posix => exact splitPosixRoot_rest path
  | windows => exact ⟨_, splitWindowsRoot_whole path⟩

/-- The names between the separators. -/
def names (flavor : Flavor) (rest : Text) : List Text :=
  segments flavor.sep isName rest

theorem named_of_mem_names {flavor : Flavor} {path part : Text}
    (member : part ∈ names flavor (splitRoot flavor (normalize flavor path)).rest) :
    Named flavor part := by
  refine ⟨kept_of_mem_segments member, ?_, clean_of_mem_segments member⟩
  cases flavor with
  | posix => exact clean_of_mem_segments member
  | windows =>
      refine absent_of_mem_segments (fun inside => ?_) member
      exact slash_notMem_backslashed path ((splitRoot_rest .windows _).subset inside)

namespace PurePath

def parse (flavor : Flavor) (path : Text) : PurePath :=
  let split := splitRoot flavor (normalize flavor path)
  { flavor := flavor
    drive := split.drive
    root := split.root
    parts := names flavor split.rest
    named := fun _ member => named_of_mem_names member }

/-- Absolute by its own flavor: a root, and on Windows a drive too. -/
def isAbsolute (path : PurePath) : Bool :=
  match path.flavor with
  | .posix => !path.root.isEmpty
  | .windows => !path.drive.isEmpty && !path.root.isEmpty

/-- pathlib `str()`: `.` when the path is empty. -/
def display (path : PurePath) : Text :=
  if path.drive = [] ∧ path.root = [] ∧ path.parts = [] then ['.']
  else path.drive ++ path.root ++ [path.flavor.sep].intercalate path.parts

/-- The path without its last name; the drive and root alone stay. -/
def parent (path : PurePath) : PurePath :=
  { path with
    parts := path.parts.dropLast
    named := fun part member => path.named part (List.dropLast_subset _ member) }

/-- The last name, empty when there is none. -/
def name (path : PurePath) : Text :=
  path.parts.getLast?.getD []

end PurePath

/-- posixpath `join` of two paths. -/
def posixJoin (path segment : Text) : Text :=
  if segment.head? = some '/' then segment
  else if path = [] ∨ path.getLast? = some '/' then path ++ segment
  else path ++ '/' :: segment

/-- `str::to_lowercase`. Of its table only this is used: what begins with a `\`, and nothing else,
does so in lower case. -/
structure Lowercase where
  lower : Text → Text
  backslash : ∀ text other, lower text = lower other →
    text.head? = some '\\' → other.head? = some '\\'

/-- A rest with a `\` at its end, unless it is empty. -/
def pushed (rest : Text) : Text :=
  if rest ≠ [] ∧ rest.getLast? ≠ some '\\' then rest ++ ['\\'] else rest

/-- ntpath `join` of two paths already separated by `\`. -/
def windowsJoin (lowercase : Lowercase) (path segment : Text) : Text :=
  let split := splitWindowsRoot path
  let seg := splitWindowsRoot segment
  if seg.root ≠ [] then
    (if seg.drive = [] then split.drive else seg.drive) ++ seg.root ++ seg.rest
  else if seg.drive ≠ [] ∧ lowercase.lower seg.drive ≠ lowercase.lower split.drive then segment
  else
    let drive := if seg.drive ≠ [] then seg.drive else split.drive
    let rest := pushed split.rest ++ seg.rest
    -- A `\` between a `\\server\share` drive and a relative rest.
    let root :=
      if split.root = [] ∧ rest ≠ [] ∧ drive ≠ [] ∧ drive.getLast? ≠ some ':' ∧
          drive.getLast? ≠ some '\\' then ['\\']
      else split.root
    drive ++ root ++ rest

namespace PurePath

/-- `self / segment`, as pathlib: the `os.path.join` of the two parsed again. -/
def join (lowercase : Lowercase) (path : PurePath) (segment : Text) : PurePath :=
  parse path.flavor <|
    match path.flavor with
    | .posix => posixJoin path.display segment
    | .windows => windowsJoin lowercase path.display (backslashed segment)

end PurePath

/-- The forms of a Windows path: a share or device with more behind it or alone, a path with a root
and no drive, a drive with a root and without one, and a relative path. -/
inductive RootForm (path : Text) : Split → Prop where
  | share {server share rest : Text} (doubled : path.take 2 = ['\\', '\\'])
      (behind : path.drop (start path) = server ++ '\\' :: (share ++ '\\' :: rest))
      (clean : '\\' ∉ server) (proper : '\\' ∉ share) :
      RootForm path ⟨path.take (start path) ++ server ++ '\\' :: share, ['\\'], rest⟩
  | alone (doubled : path.take 2 = ['\\', '\\'])
      (few : ∀ server share rest : Text, '\\' ∉ server →
        path.drop (start path) ≠ server ++ '\\' :: (share ++ '\\' :: rest)) :
      RootForm path ⟨path, [], []⟩
  | rooted {rest : Text} (whole : path = '\\' :: rest) (single : rest.head? ≠ some '\\') :
      RootForm path ⟨[], ['\\'], rest⟩
  | drive {letter : Char} {rest : Text} (whole : path = letter :: ':' :: '\\' :: rest)
      (proper : letter ≠ '\\') : RootForm path ⟨[letter, ':'], ['\\'], rest⟩
  | bare {letter : Char} {rest : Text} (whole : path = letter :: ':' :: rest)
      (proper : letter ≠ '\\') (rootless : rest.head? ≠ some '\\') :
      RootForm path ⟨[letter, ':'], [], rest⟩
  | relative (rootless : path.head? ≠ some '\\') (driveless : path[1]? ≠ some ':') :
      RootForm path ⟨[], [], path⟩

theorem doubled_iff {rest : Text} :
    ('\\' :: rest).take 2 = ['\\', '\\'] ↔ rest.head? = some '\\' := by
  cases rest <;> simp

theorem splitShare_form {path : Text} (doubled : path.take 2 = ['\\', '\\']) :
    RootForm path (splitShare path) := by
  unfold splitShare
  rcases cut_cases '\\' (path.drop (start path)) with
    ⟨none, clean⟩ | ⟨server, behind, found, clean, whole⟩
  · rw [none]
    refine .alone doubled fun server share rest _ whole => clean ?_
    rw [whole]
    exact List.mem_append_right _ List.mem_cons_self
  · rw [found]
    rcases cut_cases '\\' behind with ⟨none, lacks⟩ | ⟨share, rest, again, proper, split⟩
    · simp only [none]
      refine .alone doubled fun first second last first_clean same => lacks ?_
      rw [whole] at same
      rw [(cut_unique clean first_clean same).2]
      exact List.mem_append_right _ List.mem_cons_self
    · simp only [again]
      exact .share doubled (by rw [whole, split]) clean proper

theorem splitDrive_form {path : Text} (single : ¬path.take 2 = ['\\', '\\']) :
    RootForm path (splitDrive path) := by
  unfold splitDrive
  split
  · exact .rooted rfl (mt doubled_iff.mpr single)
  · rename_i proper
    exact .drive rfl proper
  · rename_i proper rootless
    refine .bare rfl proper fun head => ?_
    obtain ⟨more, whole⟩ := List.head?_eq_some_iff.mp head
    exact rootless more whole
  · rename_i rootless _ driveless
    refine .relative (fun head => ?_) (fun second => ?_)
    · obtain ⟨more, whole⟩ := List.head?_eq_some_iff.mp head
      exact rootless more whole
    · cases path with
      | nil => cases second
      | cons letter rest =>
          obtain ⟨more, whole⟩ := List.head?_eq_some_iff.mp (List.head?_eq_getElem? ▸ second)
          exact driveless letter more (congrArg (List.cons letter) whole)

theorem splitWindowsRoot_form (path : Text) : RootForm path (splitWindowsRoot path) := by
  unfold splitWindowsRoot
  split
  · rename_i doubled
    exact splitShare_form doubled
  · rename_i single
    exact splitDrive_form single

/-- A path has one form. -/
theorem RootForm.split_eq {path : Text} {split : Split} (form : RootForm path split) :
    splitWindowsRoot path = split := by
  cases form with
  | share doubled behind clean proper =>
      rw [splitWindowsRoot, if_pos doubled, splitShare, behind, cut_append clean]
      simp only [cut_append proper]
  | alone doubled few =>
      rw [splitWindowsRoot, if_pos doubled, splitShare]
      rcases cut_cases '\\' (path.drop (start path)) with
        ⟨none, _⟩ | ⟨server, behind, found, clean, whole⟩
      · rw [none]
      · rw [found]
        rcases cut_cases '\\' behind with ⟨none, _⟩ | ⟨share, rest, _, _, split⟩
        · simp only [none]
        · exact absurd (by rw [whole, split]) (few server share rest clean)
  | rooted whole single =>
      subst whole
      rw [splitWindowsRoot, if_neg (mt doubled_iff.mp single)]
      rfl
  | drive whole proper =>
      subst whole
      rw [splitWindowsRoot, if_neg (by simp [proper]), splitDrive]
      exact proper
  | bare whole proper rootless =>
      subst whole
      rw [splitWindowsRoot, if_neg (by simp [proper]), splitDrive]
      · exact proper
      · exact fun rest whole => rootless (by rw [whole]; rfl)
  | relative rootless driveless =>
      rw [splitWindowsRoot, if_neg ?_, splitDrive]
      · exact fun rest whole => rootless (by rw [whole]; rfl)
      · exact fun _ _ whole => driveless (by rw [whole]; rfl)
      · exact fun _ _ whole => driveless (by rw [whole]; rfl)
      · intro doubled
        cases path with
        | nil => cases doubled
        | cons head rest => exact rootless (congrArg List.head? doubled)

/-- What is lowered to no small letter was not lowered. -/
theorem eq_of_toLower {c letter : Char} (lower : c.toLower = letter)
    (caseless : letter.toNat < 97 ∨ 122 < letter.toNat) : c = letter := by
  unfold Char.toLower at lower
  split at lower
  · rename_i upper
    have small : letter.toNat = (c.val + ('a'.val - 'A'.val)).toNat := by rw [← lower]; rfl
    have least : 65 ≤ c.val.toNat := upper.1
    have most : c.val.toNat ≤ 90 := upper.2
    have raised : (c.val + ('a'.val - 'A'.val)).toNat = c.val.toNat + 32 := by
      rw [UInt32.toNat_add]
      exact Nat.mod_eq_of_lt (by change c.val.toNat + 32 < _; omega)
    omega
  · exact lower

/-- Whether a share's name is `UNC`, the case of ASCII letters ignored. -/
def Unc (name : Text) : Prop :=
  name.map Char.toLower = ['u', 'n', 'c']

theorem isUnc_iff {path : Text} : isUnc path = true ↔
    ∃ name rest, Unc name ∧ path = '\\' :: '\\' :: '?' :: '\\' :: (name ++ '\\' :: rest) := by
  constructor
  · intro unc
    have lowered := beq_iff_eq.mp unc
    have whole := List.take_append_drop 8 path
    simp only [List.map_eq_cons_iff, List.map_eq_nil_iff] at lowered
    obtain ⟨a, _, taken, one, b, _, rfl, two, c, _, rfl, three, d, _, rfl, four, u, _, rfl, five,
      n, _, rfl, six, v, _, rfl, seven, e, _, rfl, eight, rfl⟩ := lowered
    refine ⟨[u, n, v], path.drop 8, ?_, ?_⟩
    · rw [Unc, List.map_cons, List.map_cons, List.map_cons, five, six, seven]
      rfl
    · rw [← whole, taken, eq_of_toLower one (by decide), eq_of_toLower two (by decide),
        eq_of_toLower three (by decide), eq_of_toLower four (by decide),
        eq_of_toLower eight (by decide)]
      simp
  · rintro ⟨name, rest, unc, rfl⟩
    have three : name.length = 3 := by simpa using congrArg List.length unc
    have ahead : ('\\' :: '\\' :: '?' :: '\\' :: (name ++ '\\' :: rest)).take 8 =
        '\\' :: '\\' :: '?' :: '\\' :: (name ++ ['\\']) := by
      simp [List.take_append, three]
    rw [isUnc, ahead]
    simp only [List.map_cons, List.map_append, show name.map Char.toLower = _ from unc]
    rfl

theorem Unc.clean {name : Text} (unc : Unc name) : '\\' ∉ name := by
  intro inside
  have lowered : '\\' ∈ name.map Char.toLower := List.mem_map.mpr ⟨'\\', inside, rfl⟩
  rw [unc] at lowered
  simp at lowered

/-- A drive that a `\` ends, whatever comes behind. -/
def Whole (drive : Text) : Prop :=
  ∀ behind, RootForm (drive ++ '\\' :: behind) ⟨drive, ['\\'], behind⟩

theorem whole_letter {letter : Char} (proper : letter ≠ '\\') : Whole [letter, ':'] :=
  fun _ => .drive rfl proper

section Shares

variable {server share name : Text} (clean : '\\' ∉ server) (proper : '\\' ∉ share)

include clean proper

theorem isUnc_share (behind : Text) :
    isUnc ('\\' :: '\\' :: (server ++ '\\' :: (share ++ '\\' :: behind))) = true ↔
      server = ['?'] ∧ Unc share := by
  rw [isUnc_iff]
  constructor
  · rintro ⟨name, rest, unc, same⟩
    have bodies : server ++ '\\' :: (share ++ '\\' :: behind) =
        ['?'] ++ '\\' :: (name ++ '\\' :: rest) := by simpa using same
    obtain ⟨device, same⟩ := cut_unique clean (by simp) bodies
    exact ⟨device, (cut_unique proper unc.clean same).1 ▸ unc⟩
  · rintro ⟨rfl, unc⟩
    exact ⟨share, behind, unc, rfl⟩

/-- `\\server\share`, or a device such as `\\.\name`. -/
theorem whole_share (ordinary : ¬(server = ['?'] ∧ Unc share)) :
    Whole ('\\' :: '\\' :: (server ++ '\\' :: share)) := by
  intro behind
  have two : start ('\\' :: '\\' :: (server ++ '\\' :: share) ++ '\\' :: behind) = 2 := by
    have plain := mt (isUnc_share clean proper behind).mp ordinary
    rw [start, if_neg (by simpa using plain)]
  have form : RootForm ('\\' :: '\\' :: (server ++ '\\' :: share) ++ '\\' :: behind) ⟨_, _, behind⟩ :=
    .share rfl (by rw [two]; simp) clean proper
  rw [two] at form
  simpa using form

/-- `\\?\UNC\server\share`. -/
theorem whole_unc (unc : Unc name) :
    Whole ('\\' :: '\\' :: '?' :: '\\' :: (name ++ '\\' :: (server ++ '\\' :: share))) := by
  intro behind
  have three : name.length = 3 := by simpa using congrArg List.length unc
  have eight : start ('\\' :: '\\' :: '?' :: '\\' :: (name ++ '\\' :: (server ++ '\\' :: share)) ++
      '\\' :: behind) = 8 :=
    if_pos (isUnc_iff.mpr ⟨name, server ++ '\\' :: share ++ '\\' :: behind, unc, by simp⟩)
  have form : RootForm ('\\' :: '\\' :: '?' :: '\\' :: (name ++ '\\' :: (server ++ '\\' :: share)) ++
      '\\' :: behind) ⟨_, _, behind⟩ :=
    .share rfl (by rw [eight]; simp [List.drop_append, three]) clean proper
  rw [eight] at form
  simpa [List.take_append, three, List.take_of_length_le (show name.length ≤ 4 by omega)] using form

end Shares

theorem eq_of_doubled {path : Text} (doubled : path.take 2 = ['\\', '\\']) :
    path = '\\' :: '\\' :: path.drop 2 := by
  have whole := List.take_append_drop 2 path
  rw [doubled] at whole
  exact whole.symm

/-- The drive of a share with more behind it is whole. -/
theorem whole_of_share {path server share rest : Text} (doubled : path.take 2 = ['\\', '\\'])
    (behind : path.drop (start path) = server ++ '\\' :: (share ++ '\\' :: rest))
    (clean : '\\' ∉ server) (proper : '\\' ∉ share) :
    Whole (path.take (start path) ++ server ++ '\\' :: share) := by
  by_cases unc : isUnc path = true
  · have eight : start path = 8 := if_pos unc
    obtain ⟨name, more, named, rfl⟩ := isUnc_iff.mp unc
    have three : name.length = 3 := by simpa using congrArg List.length named
    rw [eight]
    simpa [List.take_append, three, List.take_of_length_le (show name.length ≤ 4 by omega)]
      using whole_unc clean proper named
  · have two : start path = 2 := if_neg unc
    rw [two] at behind ⊢
    rw [eq_of_doubled doubled, behind] at unc
    rw [doubled]
    exact whole_share clean proper (mt (isUnc_share clean proper rest).mpr unc)

/-- The two pieces ahead of a text that begins with `\\` are empty. -/
theorem eq_of_pieces {first second : Text} {others : List Text} (clean : '\\' ∉ first)
    (proper : '\\' ∉ second) (behind : others ≠ [])
    (doubled : (['\\'].intercalate (first :: second :: others)).take 2 = ['\\', '\\']) :
    ['\\'].intercalate (first :: second :: others) =
      '\\' :: '\\' :: ['\\'].intercalate others := by
  rw [List.intercalate_cons_cons, List.intercalate_cons_of_ne_nil behind] at doubled ⊢
  cases first with
  | nil =>
      cases second with
      | nil => rfl
      | cons head rest =>
          have same : head = '\\' := by simpa using doubled
          exact absurd (same ▸ List.mem_cons_self) proper
  | cons head rest =>
      have same : head = '\\' := by
        rw [List.cons_append, List.cons_append, List.take_succ_cons] at doubled
        exact (List.cons.inj doubled).1
      exact absurd (same ▸ List.mem_cons_self) clean

/-- A share or device alone that pathlib gives a root is a whole drive. -/
theorem whole_of_windowsRoot {path : Text} (doubled : path.take 2 = ['\\', '\\'])
    (few : ∀ server share rest : Text, '\\' ∉ server →
      path.drop (start path) ≠ server ++ '\\' :: (share ++ '\\' :: rest))
    (rooted : windowsRoot path [] ≠ []) : windowsRoot path [] = ['\\'] ∧ Whole path := by
  have pieces : ['\\'].intercalate (path.splitOn '\\') = path := List.intercalate_splitOn '\\'
  have clean : ∀ piece ∈ path.splitOn '\\', '\\' ∉ piece := fun _ => clean_of_mem_splitOn
  unfold windowsRoot at rooted ⊢
  by_cases early : ([] : Text) ≠ [] ∨ path.head? ≠ some '\\' ∨ path.getLast? = some '\\'
  · rw [if_pos early] at rooted
    exact absurd rfl rooted
  · rw [if_neg early] at rooted ⊢
    generalize path.splitOn '\\' = list at *
    split at rooted
    · rename_i first second third fourth
      split at rooted
      · exact absurd rfl rooted
      · rename_i other
        simp only [List.mem_cons, List.not_mem_nil, or_false, forall_eq_or_imp, forall_eq] at clean
        refine ⟨if_neg other, ?_⟩
        have whole : path = '\\' :: '\\' :: (third ++ '\\' :: fourth) := by
          rw [← pieces] at doubled ⊢
          rw [eq_of_pieces clean.1 clean.2.1 (List.cons_ne_nil _ _) doubled]
          simp [List.intercalate_cons_cons]
        have ordinary : ¬(third = ['?'] ∧ Unc fourth) := by
          rintro ⟨rfl, _⟩
          exact other (by decide)
        rw [whole]
        exact whole_share clean.2.2.1 clean.2.2.2 ordinary
    · rename_i first second third fourth server share
      refine ⟨rfl, ?_⟩
      simp only [List.mem_cons, List.not_mem_nil, or_false, forall_eq_or_imp, forall_eq] at clean
      obtain ⟨first_clean, second_clean, third_clean, fourth_clean, server_clean, share_clean⟩ := clean
      have whole : path =
          '\\' :: '\\' :: (third ++ '\\' :: (fourth ++ '\\' :: (server ++ '\\' :: share))) := by
        rw [← pieces] at doubled ⊢
        rw [eq_of_pieces first_clean second_clean (List.cons_ne_nil _ _) doubled]
        simp [List.intercalate_cons_cons]
      by_cases unc : isUnc path = true
      · rw [whole] at unc ⊢
        obtain ⟨rfl, named⟩ := (isUnc_share third_clean fourth_clean _).mp unc
        exact whole_unc server_clean share_clean named
      · have two : start path = 2 := if_neg unc
        refine absurd ?_ (few third fourth (server ++ '\\' :: share) third_clean)
        rw [two, whole]
        rfl
    · exact absurd rfl rooted

/-- What a Windows path is once pathlib has given it its root: a whole drive, a share or device
without one, or a form without a share. -/
inductive Settled (path : Text) : Split → Prop where
  | whole {drive rest : Text} (ahead : drive ≠ []) (whole : Whole drive) :
      Settled path ⟨drive, ['\\'], rest⟩
  | alone (doubled : path.take 2 = ['\\', '\\']) (form : RootForm path ⟨path, [], []⟩)
      (rootless : windowsRoot path [] = []) : Settled path ⟨path, [], []⟩
  | rooted {rest : Text} (whole : path = '\\' :: rest) (single : rest.head? ≠ some '\\') :
      Settled path ⟨[], ['\\'], rest⟩
  | bare {letter : Char} {rest : Text} (whole : path = letter :: ':' :: rest)
      (proper : letter ≠ '\\') (rootless : rest.head? ≠ some '\\') :
      Settled path ⟨[letter, ':'], [], rest⟩
  | relative (rootless : path.head? ≠ some '\\') (driveless : path[1]? ≠ some ':') :
      Settled path ⟨[], [], path⟩

theorem windowsRoot_of_ne {drive root : Text} (rooted : root ≠ []) : windowsRoot drive root = root :=
  if_pos (.inl rooted)

theorem windowsRoot_of_head {drive root : Text} (other : drive.head? ≠ some '\\') :
    windowsRoot drive root = root :=
  if_pos (.inr (.inl other))

theorem windowsRoot_letter {letter : Char} {root : Text} (proper : letter ≠ '\\') :
    windowsRoot [letter, ':'] root = root :=
  windowsRoot_of_head fun head => proper (Option.some.inj head)

/-- What a form is once pathlib has given it its root. -/
theorem RootForm.settled {path : Text} {split : Split} (form : RootForm path split) :
    Settled path { split with root := windowsRoot split.drive split.root } := by
  cases form with
  | share doubled behind clean proper =>
      rw [windowsRoot_of_ne (List.cons_ne_nil _ _)]
      exact .whole (by simp) (whole_of_share doubled behind clean proper)
  | alone doubled few =>
      by_cases rootless : windowsRoot path [] = []
      · rw [rootless]
        exact .alone doubled (.alone doubled few) rootless
      · obtain ⟨root, whole⟩ := whole_of_windowsRoot doubled few rootless
        rw [root]
        refine .whole (fun empty => ?_) whole
        rw [show path = [] from empty] at doubled
        cases doubled
  | rooted whole single => exact .rooted whole single
  | drive whole proper =>
      rw [windowsRoot_of_ne (List.cons_ne_nil _ _)]
      exact .whole (List.cons_ne_nil _ _) (whole_letter proper)
  | bare whole proper rootless =>
      rw [windowsRoot_letter proper]
      exact .bare whole proper rootless
  | relative rootless driveless => exact .relative rootless driveless

theorem splitRoot_settled (path : Text) : Settled path (splitRoot .windows path) :=
  (splitWindowsRoot_form path).settled

/-- A form gives back its split, with the root that is pathlib's. -/
theorem RootForm.splitRoot_eq {path : Text} {split : Split} (form : RootForm path split) :
    splitRoot .windows path = { split with root := windowsRoot split.drive split.root } := by
  rw [splitRoot, form.split_eq]

section Settled

variable {path drive root rest behind : Text} (settled : Settled path ⟨drive, root, rest⟩)

include settled

theorem Settled.root_cases : root = [] ∨ root = ['\\'] := by
  cases settled with
  | whole => exact .inr rfl
  | alone => exact .inl rfl
  | rooted => exact .inr rfl
  | bare => exact .inl rfl
  | relative => exact .inl rfl

theorem Settled.windowsRoot_eq : windowsRoot drive root = root := by
  cases settled with
  | whole => exact windowsRoot_of_ne (List.cons_ne_nil _ _)
  | alone _ _ rootless => exact rootless
  | rooted => exact windowsRoot_of_ne (List.cons_ne_nil _ _)
  | bare _ proper _ => exact windowsRoot_letter proper
  | relative => exact windowsRoot_of_head (by simp)

/-- What is split off a Windows path is split off it again ahead of what begins with no separator,
unless there is neither drive nor root and a colon comes second. -/
theorem Settled.again (rootless : behind.head? ≠ some '\\') (nothing : rest = [] → behind = [])
    (driveless : drive = [] → root = [] → behind[1]? ≠ some ':') :
    RootForm (drive ++ root ++ behind) ⟨drive, root, behind⟩ := by
  cases settled with
  | whole ahead whole =>
      rw [List.append_assoc]
      exact whole behind
  | alone _ form _ =>
      rw [nothing rfl, List.append_nil, List.append_nil]
      exact form
  | rooted => exact .rooted rfl rootless
  | bare _ proper _ => exact .bare rfl proper rootless
  | relative => exact .relative rootless (driveless rfl rfl)

/-- A drive with a root is whole. -/
theorem Settled.of_absolute (driven : drive ≠ []) (rooted : root ≠ []) :
    root = ['\\'] ∧ Whole drive := by
  cases settled with
  | whole ahead whole => exact ⟨rfl, whole⟩
  | alone => exact absurd rfl rooted
  | rooted => exact absurd rfl driven
  | bare => exact absurd rfl rooted
  | relative => exact absurd rfl driven

/-- A share or device without a root has nothing behind it. -/
theorem Settled.of_rootless (share : drive.head? = some '\\') (rootless : root = []) : rest = [] := by
  cases settled with
  | whole => cases rootless
  | alone => rfl
  | rooted => cases rootless
  | bare _ proper _ => exact absurd (Option.some.inj share) proper
  | relative => cases share

end Settled

/-- Without drive and root the path is its own rest. -/
theorem Settled.of_relative {path rest : Text} (settled : Settled path ⟨[], [], rest⟩) :
    rest = path ∧ path.head? ≠ some '\\' ∧ path[1]? ≠ some ':' := by
  cases settled with
  | alone doubled => cases doubled
  | relative rootless driveless => exact ⟨rfl, rootless, driveless⟩

/-- posixpath keeps none, one or exactly two leading slashes. -/
theorem splitPosixRoot_root (path : Text) :
    (splitPosixRoot path).drive = [] ∧ ((splitPosixRoot path).root = [] ∨
      (splitPosixRoot path).root = ['/'] ∨ (splitPosixRoot path).root = ['/', '/']) := by
  unfold splitPosixRoot
  split
  · exact ⟨rfl, .inl rfl⟩
  · split
    · exact ⟨rfl, .inr (.inl rfl)⟩
    · exact ⟨rfl, .inr (.inr rfl)⟩

theorem splitPosixRoot_relative {path : Text} (rootless : path.head? ≠ some '/') :
    splitPosixRoot path = ⟨[], [], path⟩ :=
  if_pos rootless

theorem splitPosixRoot_slash {path : Text} (slash : path.head? = some '/') :
    (splitPosixRoot path).root ≠ [] := by
  rw [splitPosixRoot, if_neg (not_not.mpr slash)]
  split <;> exact List.cons_ne_nil _ _

/-- The root is the slashes ahead of what begins with none. -/
theorem splitPosixRoot_rooted {root rest : Text}
    (slashes : root = [] ∨ root = ['/'] ∨ root = ['/', '/']) (rootless : rest.head? ≠ some '/') :
    splitPosixRoot (root ++ rest) = ⟨[], root, rest⟩ := by
  rcases slashes with rfl | rfl | rfl
  · exact splitPosixRoot_relative rootless
  · rw [splitPosixRoot, if_neg (by simp), if_pos (.inl (by simpa using rootless))]
    cases rest with
    | nil => rfl
    | cons head rest =>
        have other : head ≠ '/' := fun same => rootless (congrArg some same)
        simp [other]
  · have two : ¬(('/' :: '/' :: rest).drop 1).head? ≠ some '/' := by simp
    have apart : ¬(('/' :: '/' :: rest).drop 2).head? = some '/' := rootless
    exact (if_neg (by simp)).trans (if_neg (not_or.mpr ⟨two, apart⟩))

end Bsrs.Devices
