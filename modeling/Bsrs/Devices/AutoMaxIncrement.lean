import Mathlib.Data.List.DropRight
import Bsrs.Core.Error
import Bsrs.Devices.PathJoin
import Bsrs.Library.Run
import Mathlib.Algebra.Group.Nat.Defs

/-! The directories that a provider numbers one past the highest number already there. -/

namespace Bsrs.Devices

open Bsrs.Library (cut cut_append cut_clean cut_cases segments segments_append segments_clean exec
  Throughout exec_invariant_throughout)
open Bsrs.Core (BsrsError)
open PurePath

/-- The path with `/` separators. -/
def asPosix (path : PurePath) : Text :=
  path.display.map fun c => if c = '\\' then '/' else c

/-- The path on this host, which is a posix one. -/
def toPathBuf (path : PurePath) : Text :=
  match path.flavor with
  | .posix => path.display
  | .windows => asPosix path

/-- `file://localhost/{directory_path.as_posix()}/`. -/
def generateDirectoryUri (directoryPath : PurePath) : Text :=
  let path := asPosix directoryPath
  let slash := if path.head? = some '/' then [] else ['/']
  "file://localhost".toList ++ slash ++ path ++ ['/']

/-- Whether `uri` has a scheme, a network location and a path. -/
def hasSchemeNetlocPath (uri : Text) : Bool :=
  match cut ':' uri with
  | none => false
  | some (scheme, rest) =>
      let schemeOk := scheme.head?.any Char.isAlpha &&
        scheme.all fun c => c.isAlphanum || c == '+' || c == '-' || c == '.'
      if rest.take 2 = ['/', '/'] then
        let netloc := (rest.drop 2).takeWhile fun c => c != '/' && c != '?' && c != '#'
        let behind := (rest.drop 2).dropWhile fun c => c != '/' && c != '?' && c != '#'
        let path := behind.takeWhile fun c => c != '?' && c != '#'
        schemeOk && !netloc.isEmpty && !path.isEmpty
      else false

/-- Where and how to write a file. -/
structure PathInfo where
  directoryPath : PurePath
  filename : Text
  createDirDepth : Int
  directoryUri : Text
  absolute : directoryPath.isAbsolute = true

/-- `BsrsError::InvalidValue`. -/
def invalid (text : Text) : BsrsError :=
  .other (String.ofList ("invalid value: ".toList ++ text))

def PathInfo.new (directoryPath : PurePath) (filename : Text) (createDirDepth : Int)
    (directoryUri : Option Text) : Except BsrsError PathInfo :=
  if absolute : directoryPath.isAbsolute = true then
    match directoryUri with
    | none => .ok ⟨directoryPath, filename, createDirDepth, generateDirectoryUri directoryPath, absolute⟩
    | some given =>
        let uri := if given.getLast? = some '/' then given else given ++ ['/']
        if hasSchemeNetlocPath uri then .ok ⟨directoryPath, filename, createDirDepth, uri, absolute⟩
        else .error (invalid
          ("Directory URI must include a scheme, netlocation, and path. Got: ".toList ++ uri))
  else
    .error (invalid ("directory_path must be an absolute path, got ".toList ++ directoryPath.display))

theorem PathInfo.new_ok {directoryPath : PurePath} {filename : Text} {depth : Int} {info : PathInfo}
    (made : PathInfo.new directoryPath filename depth none = .ok info) :
    info.directoryPath = directoryPath := by
  unfold PathInfo.new at made
  split at made
  · cases made
    rfl
  · cases made

/-- An entry of a directory: its name, if that is text, and whether it is a directory itself. -/
structure DirEntry where
  fileName : Option Text
  isDir : Bool
deriving DecidableEq, Repr

/-- What one call sees of the files on this host. A directory is found in every directory above it,
each of which lists the next. -/
structure FileSystem where
  pathExists : Text → Bool
  isDir : Text → Bool
  readDir : Text → Except Text (List (Except Text DirEntry))
  listed : ∀ (above inner name : Text) (more : List Text),
    (parse .posix inner).root = (parse .posix above).root →
    (parse .posix inner).parts = (parse .posix above).parts ++ name :: more → name ≠ ['.', '.'] →
    isDir inner = true → pathExists above = true ∧
      ∀ entries, readDir above = .ok entries → .ok ⟨some name, true⟩ ∈ entries

/-- A file system of directories only, below the root. -/
def FileSystem.ofDirs (dirs : List (List Text))
    (closed : ∀ dir ∈ dirs, ∀ above ∈ dir.inits, above ∈ dirs) : FileSystem where
  pathExists path := (parse .posix path).root == ['/'] && dirs.contains (parse .posix path).parts
  isDir path := (parse .posix path).root == ['/'] && dirs.contains (parse .posix path).parts
  readDir path :=
    if (parse .posix path).root == ['/'] && dirs.contains (parse .posix path).parts then
      .ok ((dirs.filter fun dir => dir ≠ [] ∧ dir.dropLast = (parse .posix path).parts).map
        fun dir => .ok ⟨dir.getLast?, true⟩)
    else .error "No such file or directory (os error 2)".toList
  listed above inner name more root parts _ present := by
    simp only [Bool.and_eq_true, beq_iff_eq, List.contains_iff_mem, root, parts] at present ⊢
    have inside : (parse .posix above).parts ++ [name] ∈ dirs :=
      closed _ present.2 _ (List.mem_inits _ _ |>.mpr ⟨more, by simp⟩)
    have whole : (parse .posix above).parts ∈ dirs :=
      closed _ present.2 _ (List.mem_inits _ _ |>.mpr ⟨name :: more, rfl⟩)
    refine ⟨⟨present.1, whole⟩, fun entries listing => ?_⟩
    rw [if_pos ⟨present.1, whole⟩] at listing
    cases listing
    refine List.mem_map.mpr ⟨(parse .posix above).parts ++ [name], ?_, by simp⟩
    exact List.mem_filter.mpr ⟨inside, by simp⟩

/-- `u64` addition of 1, as it wraps. -/
def next (value : Nat) : Nat :=
  (value + 1) % 2 ^ 64

/-- `{value:0width$}`. -/
def padded (width value : Nat) : Text :=
  List.replicate (width - (Nat.toDigits 10 value).length) '0' ++ Nat.toDigits 10 value

/-- The `N` of a `{N}_*` name. -/
def numberOf (name : Text) : Option Nat :=
  match cut '_' name with
  | none => none
  | some (digits, _) =>
      if digits ≠ [] ∧ digits.all Char.isDigit = true then
        -- What `u64` does not hold is no number.
        if Nat.ofDigitChars 10 digits 0 < 2 ^ 64 then some (Nat.ofDigitChars 10 digits 0) else none
      else none

def DirEntry.number (entry : DirEntry) : Option Nat :=
  entry.fileName.bind numberOf

def ioError (path : Text) (err : Text) : BsrsError :=
  .backend (String.ofList (path ++ ": ".toList ++ err))

/-- The highest number of the entries, or the first error among them. -/
def highestOf (path : Text) : List (Except Text DirEntry) → Option Nat → Except BsrsError (Option Nat)
  | [], highest => .ok highest
  | .error err :: _, _ => .error (ioError path err)
  | .ok entry :: rest, highest =>
      highestOf path rest (if entry.isDir then max highest entry.number else highest)

/-- The highest `N` of the `{N}_*` directories in `path`, `None` when there is none. -/
def highestNumberedDir (fs : FileSystem) (path : Text) : Except BsrsError (Option Nat) :=
  match fs.readDir path with
  | .error err => .error (ioError path err)
  | .ok entries => highestOf path entries none

/-- Whether `name` is a `YYYY-MM-DD` directory name. -/
def isDateDirName (name : Text) : Bool :=
  name.length == 10 && name.zipIdx.all fun (c, i) => if i = 4 ∨ i = 7 then c == '-' else c.isDigit

/-- A day of the calendar on this host. -/
structure Date where
  year : Nat
  month : Nat
  day : Nat
deriving DecidableEq, Repr

/-- `%Y-%m-%d`. -/
def Date.text (date : Date) : Text :=
  padded 4 date.year ++ '-' :: padded 2 date.month ++ '-' :: padded 2 date.day

/-- The loop over the entries of the base directory: the counter past the numbers of the days, as far
as the loop comes. -/
def raisePastDays (fs : FileSystem) (baseDir : Text) :
    List (Except Text DirEntry) → Nat → Except BsrsError Unit × Nat
  | [], nextValue => (.ok (), nextValue)
  | .error err :: _, nextValue => (.error (ioError baseDir err), nextValue)
  | .ok entry :: rest, nextValue =>
      match entry.fileName.filter isDateDirName with
      | none => raisePastDays fs baseDir rest nextValue
      | some day =>
          match highestNumberedDir fs (posixJoin baseDir day) with
          | .error err => (.error err, nextValue)
          | .ok none => raisePastDays fs baseDir rest nextValue
          | .ok (some highest) => raisePastDays fs baseDir rest (max nextValue (next highest))

/-- What a provider is made with. -/
structure AutoMaxIncrementing where
  maxDigits : Nat
  dated : Bool

/-- What a call finds: the base provider's answer, the date and the files. -/
structure PathCall where
  base : Except BsrsError PathInfo
  today : Date
  fs : FileSystem

namespace AutoMaxIncrementing

variable (provider : AutoMaxIncrementing) (lowercase : Lowercase)

/-- The directory that is numbered in. -/
def path (today : Date) (baseDir : Text) : Text :=
  if provider.dated then posixJoin baseDir today.text else baseDir

/-- The counter once it is past the other days, or the error on the way. -/
def raised (fs : FileSystem) (baseDir : Text) (nextValue : Nat) : Except BsrsError Unit × Nat :=
  if provider.dated then
    match fs.readDir baseDir with
    | .error err => (.error (ioError baseDir err), nextValue)
    | .ok entries => raisePastDays fs baseDir entries nextValue
  else (.ok (), nextValue)

/-- One past the highest number in the directory, else the counter. -/
def value (fs : FileSystem) (path : Text) (nextValue : Nat) : Except BsrsError Nat :=
  if fs.pathExists path then
    match highestNumberedDir fs path with
    | .error err => .error err
    | .ok none => .ok nextValue
    | .ok (some highest) => .ok (next highest)
  else .ok nextValue

/-- `{counter}_{filename}`. -/
def numbered (value : Nat) (filename : Text) : Text :=
  padded provider.maxDigits value ++
    '_' :: (filename.rdropWhile (· == '_')).dropWhile (· == '_')

def fullPath (path : Text) (value : Nat) (filename : Text) : PurePath :=
  join lowercase (join lowercase (parse .posix path) (provider.numbered value filename))
    (filename.rdropWhile (· == '_'))

/-- `path_info`: the number and the directory it gives, or the error, and the counter it leaves. -/
def pathInfo (call : PathCall) (nextValue : Nat) : Except BsrsError (Nat × PathInfo) × Nat :=
  match call.base with
  | .error err => (.error err, nextValue)
  | .ok base =>
      let baseDir := toPathBuf base.directoryPath
      match provider.raised call.fs baseDir nextValue with
      | (.error err, nextValue) => (.error err, nextValue)
      | (.ok (), nextValue) =>
          let path := provider.path call.today baseDir
          match value call.fs path nextValue with
          | .error err => (.error err, nextValue)
          | .ok value =>
              let full := provider.fullPath lowercase path value base.filename
              ((PathInfo.new full.parent full.name 0 none).map (value, ·), next value)

end AutoMaxIncrementing

/-- The digits of a padded number are digits. -/
theorem isDigit_of_mem_padded {width value : Nat} {c : Char} (member : c ∈ padded width value) :
    c.isDigit = true := by
  rcases List.mem_append.mp member with zero | digit
  · rw [(List.mem_replicate.mp zero).2]
    rfl
  · exact Nat.isDigit_of_mem_toDigits (by decide) (by decide) digit

theorem padded_ne_nil (width value : Nat) : padded width value ≠ [] :=
  fun empty => Nat.toDigits_ne_nil (List.append_eq_nil_iff.mp empty).2

/-- What is no digit is not among those of a padded number. -/
theorem notMem_padded {c : Char} (other : c.isDigit = false) (width value : Nat) :
    c ∉ padded width value := by
  intro member
  rw [isDigit_of_mem_padded member] at other
  cases other

theorem ofDigitChars_padded (width value : Nat) :
    Nat.ofDigitChars 10 (padded width value) 0 = value := by
  rw [padded, Nat.ofDigitChars_append, Nat.ofDigitChars_replicate_zero, Nat.mul_zero,
    Nat.ofDigitChars_ten_toDigits]

/-- The number of a numbered name is read back. -/
theorem numberOf_padded {width value : Nat} (fits : value < 2 ^ 64) (behind : Text) :
    numberOf (padded width value ++ '_' :: behind) = some value := by
  have digits : padded width value ≠ [] ∧ (padded width value).all Char.isDigit = true :=
    ⟨padded_ne_nil width value, List.all_eq_true.mpr fun _ => isDigit_of_mem_padded⟩
  rw [numberOf, cut_append (notMem_padded rfl width value)]
  simp only [if_pos digits, ofDigitChars_padded, if_pos fits]

/-- A number among the entries of a directory. -/
def Numbers (entries : List (Except Text DirEntry)) (number : Nat) : Prop :=
  ∃ entry, .ok entry ∈ entries ∧ entry.isDir = true ∧ entry.number = some number

theorem le_max_some (number : Nat) (other : Option Nat) :
    (∃ highest, max (some number) other = some highest ∧ number ≤ highest) ∧
      ∃ highest, max other (some number) = some highest ∧ number ≤ highest := by
  cases other with
  | none => exact ⟨⟨number, rfl, Nat.le_refl _⟩, ⟨number, rfl, Nat.le_refl _⟩⟩
  | some other => exact ⟨⟨_, rfl, Nat.le_max_left _ _⟩, ⟨_, rfl, Nat.le_max_right _ _⟩⟩

/-- No number among the entries, nor the one before, is above the highest. -/
theorem le_highestOf {path : Text} {entries : List (Except Text DirEntry)} {before after : Option Nat}
    (found : highestOf path entries before = .ok after) {number : Nat}
    (among : before = some number ∨ Numbers entries number) :
    ∃ highest, after = some highest ∧ number ≤ highest := by
  induction entries generalizing before number with
  | nil =>
      cases found
      rcases among with same | ⟨entry, absent, _⟩
      · exact ⟨number, same, Nat.le_refl _⟩
      · cases absent
  | cons entry rest ih =>
      cases entry with
      | error err => cases found
      | ok entry =>
          rw [highestOf] at found
          rcases among with rfl | ⟨other, member, dir, numbered⟩
          · split at found
            · obtain ⟨between, taken, le⟩ := (le_max_some number entry.number).1
              obtain ⟨highest, last, above⟩ := ih found (.inl taken)
              exact ⟨highest, last, Nat.le_trans le above⟩
            · exact ih found (.inl rfl)
          · rcases List.mem_cons.mp member with same | later
            · cases same
              rw [if_pos dir, numbered] at found
              obtain ⟨between, taken, le⟩ := (le_max_some number before).2
              obtain ⟨highest, last, above⟩ := ih found (.inl taken)
              exact ⟨highest, last, Nat.le_trans le above⟩
            · exact ih found (.inr ⟨other, later, dir, numbered⟩)

/-- No numbered directory is above the highest. -/
theorem le_highestNumberedDir {fs : FileSystem} {path : Text}
    {entries : List (Except Text DirEntry)} {highest : Option Nat} {number : Nat}
    (found : highestNumberedDir fs path = .ok highest) (listing : fs.readDir path = .ok entries)
    (among : Numbers entries number) : ∃ top, highest = some top ∧ number ≤ top := by
  rw [highestNumberedDir, listing] at found
  exact le_highestOf found (.inr among)

theorem readDir_of_highest {fs : FileSystem} {path : Text} {highest : Option Nat}
    (found : highestNumberedDir fs path = .ok highest) :
    ∃ entries, fs.readDir path = .ok entries := by
  unfold highestNumberedDir at found
  cases listing : fs.readDir path with
  | error err =>
      rw [listing] at found
      cases found
  | ok entries => exact ⟨entries, rfl⟩

/-- A day's directory among the entries of the base directory. -/
def Days (entries : List (Except Text DirEntry)) (day : Text) : Prop :=
  ∃ entry, .ok entry ∈ entries ∧ entry.fileName = some day ∧ isDateDirName day = true

/-- The counter is past the highest number of a day. -/
def PastDay (fs : FileSystem) (baseDir day : Text) (nextValue : Nat) : Prop :=
  ∃ highest, highestNumberedDir fs (posixJoin baseDir day) = .ok highest ∧
    ∀ top, highest = some top → next top ≤ nextValue

theorem PastDay.mono {fs : FileSystem} {baseDir day : Text} {before after : Nat}
    (past : PastDay fs baseDir day before) (le : before ≤ after) : PastDay fs baseDir day after := by
  obtain ⟨highest, found, tops⟩ := past
  exact ⟨highest, found, fun top same => Nat.le_trans (tops top same) le⟩

/-- No highest number of a day puts the counter above a bound. -/
def TopsUpTo (fs : FileSystem) (baseDir : Text) (entries : List (Except Text DirEntry)) (bound : Nat) :
    Prop :=
  ∀ day top, Days entries day → highestNumberedDir fs (posixJoin baseDir day) = .ok (some top) →
    next top ≤ bound

section Days

variable {fs : FileSystem} {baseDir : Text}

/-- A turn of the loop over the days ends it with an error, or goes on from a counter that is no lower
and past the entry's numbers. -/
theorem raisePastDays_turn (entry : Except Text DirEntry) (rest : List (Except Text DirEntry))
    (nextValue : Nat) :
    (∃ err, raisePastDays fs baseDir (entry :: rest) nextValue = (.error err, nextValue)) ∨
      ∃ later, raisePastDays fs baseDir (entry :: rest) nextValue = raisePastDays fs baseDir rest later ∧
        nextValue ≤ later ∧ (∀ bound, TopsUpTo fs baseDir [entry] bound → nextValue ≤ bound → later ≤ bound) ∧
        ∀ day, Days [entry] day → PastDay fs baseDir day later := by
  cases entry with
  | error err => exact .inl ⟨_, rfl⟩
  | ok entry =>
      have own : ∀ day, Days [.ok entry] day → entry.fileName.filter isDateDirName = some day := by
        rintro day ⟨other, member, named, dated⟩
        cases List.mem_singleton.mp member
        rw [named]
        exact if_pos dated
      have there : ∀ day, entry.fileName.filter isDateDirName = some day → Days [.ok entry] day := by
        intro day dayed
        obtain ⟨named, dated⟩ := Option.filter_eq_some_iff.mp dayed
        exact ⟨entry, List.mem_singleton.mpr rfl, named, dated⟩
      rw [raisePastDays]
      cases dayed : entry.fileName.filter isDateDirName with
      | none =>
          refine .inr ⟨nextValue, rfl, Nat.le_refl _, fun _ _ => id, fun day among => ?_⟩
          rw [own day among] at dayed
          cases dayed
      | some day =>
          simp only
          cases found : highestNumberedDir fs (posixJoin baseDir day) with
          | error err => exact .inl ⟨_, rfl⟩
          | ok highest =>
              have same : ∀ other, Days [.ok entry] other → other = day :=
                fun other among => Option.some.inj ((own other among).symm.trans dayed)
              cases highest with
              | none =>
                  refine .inr ⟨nextValue, rfl, Nat.le_refl _, fun _ _ => id, fun other among => ?_⟩
                  rw [same other among]
                  exact ⟨none, found, fun top absent => by cases absent⟩
              | some top =>
                  refine .inr ⟨max nextValue (next top), rfl, Nat.le_max_left _ _,
                    fun _ tops le => Nat.max_le.mpr ⟨le, tops day top (there day dayed) found⟩, fun other among => ?_⟩
                  rw [same other among]
                  refine ⟨some top, found, fun other same => ?_⟩
                  cases same
                  exact Nat.le_max_right _ _

theorem le_raisePastDays (entries : List (Except Text DirEntry)) (nextValue : Nat) :
    nextValue ≤ (raisePastDays fs baseDir entries nextValue).2 := by
  induction entries generalizing nextValue with
  | nil => exact Nat.le_refl _
  | cons entry rest ih =>
      rcases raisePastDays_turn entry rest nextValue with ⟨err, ended⟩ | ⟨later, on, le, _⟩
      · rw [ended]
      · rw [on]
        exact Nat.le_trans le (ih later)

theorem raisePastDays_le {entries : List (Except Text DirEntry)} {nextValue bound : Nat}
    (tops : TopsUpTo fs baseDir entries bound) (le : nextValue ≤ bound) :
    (raisePastDays fs baseDir entries nextValue).2 ≤ bound := by
  induction entries generalizing nextValue with
  | nil => exact le
  | cons entry rest ih =>
      rcases raisePastDays_turn entry rest nextValue with ⟨err, ended⟩ | ⟨later, on, _, bounded, _⟩
      · rw [ended]
        exact le
      · rw [on]
        refine ih (fun day top among => ?_) (bounded bound (fun day top among => ?_) le)
        · obtain ⟨own, member, named⟩ := among
          exact tops day top ⟨own, List.mem_cons_of_mem _ member, named⟩
        · obtain ⟨own, member, named⟩ := among
          exact tops day top ⟨own, List.mem_cons.mpr (.inl (List.mem_singleton.mp member)), named⟩

/-- Where the loop comes through, the counter is past each day. -/
theorem raisePastDays_past {entries : List (Except Text DirEntry)} {nextValue : Nat}
    (through : (raisePastDays fs baseDir entries nextValue).1 = .ok ()) {day : Text}
    (among : Days entries day) :
    PastDay fs baseDir day (raisePastDays fs baseDir entries nextValue).2 := by
  induction entries generalizing nextValue with
  | nil =>
      obtain ⟨_, absent, _⟩ := among
      cases absent
  | cons entry rest ih =>
      rcases raisePastDays_turn entry rest nextValue with ⟨err, ended⟩ | ⟨later, on, _, _, past⟩
      · rw [ended] at through
        cases through
      · rw [on] at through ⊢
        obtain ⟨own, member, named, dated⟩ := among
        rcases List.mem_cons.mp member with same | behind
        · exact (past day ⟨own, List.mem_singleton.mpr same, named, dated⟩).mono (le_raisePastDays rest later)
        · exact ih through ⟨own, behind, named, dated⟩

end Days

namespace AutoMaxIncrementing

variable {provider : AutoMaxIncrementing} {lowercase : Lowercase}

/-- A file name, its `_` at the end left out, that is relative and names something. -/
def Proper (filename : Text) : Prop :=
  (filename.rdropWhile (· == '_')).head? ≠ some '/' ∧
    names .posix (filename.rdropWhile (· == '_')) ≠ []

instance (filename : Text) : Decidable (Proper filename) :=
  inferInstanceAs (Decidable (_ ∧ _))

theorem isName_padded (width value : Nat) (behind : Text) :
    isName (padded width value ++ '_' :: behind) = true := by
  have other : padded width value ++ '_' :: behind ≠ ['.'] := by
    intro same
    have inside : '_' ∈ (['.'] : Text) := same ▸ List.mem_append_right _ List.mem_cons_self
    cases List.mem_singleton.mp inside
  simp [isName, other]

/-- The first name of what is numbered is numbered itself, and the only one if there is no `/`. -/
theorem names_padded (width value : Nat) (behind : Text) :
    ∃ rest more, names .posix (padded width value ++ '_' :: behind) =
        (padded width value ++ '_' :: rest) :: more ∧ ('/' ∉ behind → more = []) := by
  have clean : ∀ rest : Text, '/' ∉ rest → '/' ∉ padded width value ++ '_' :: rest := by
    intro rest absent
    simp [notMem_padded (c := '/') rfl width value, absent]
  rcases cut_cases '/' behind with ⟨_, absent⟩ | ⟨before, after, _, absent, rfl⟩
  · refine ⟨behind, [], ?_, fun _ => rfl⟩
    rw [names, Flavor.sep, segments_clean (clean behind absent), List.filter_singleton, isName_padded]
    rfl
  · refine ⟨before, names .posix after, ?_, fun none => absurd (by simp) none⟩
    have split : padded width value ++ '_' :: (before ++ '/' :: after) =
        (padded width value ++ '_' :: before) ++ '/' :: after := by simp
    rw [split, names, Flavor.sep, segments_append, segments_clean (clean before absent),
      List.filter_singleton, isName_padded]
    rfl

theorem head?_padded (width value : Nat) (behind : Text) :
    (padded width value ++ behind).head? ≠ some '/' := by
  rw [List.head?_append_of_ne_nil _ (padded_ne_nil width value)]
  exact fun head => notMem_padded rfl width value (List.mem_of_head? head)

/-- The names below the directory that is numbered in. -/
def below (provider : AutoMaxIncrementing) (value : Nat) (filename : Text) : List Text :=
  names .posix (provider.numbered value filename) ++
    (names .posix (filename.rdropWhile (· == '_'))).dropLast

/-- The directory that a number is given for lies below the one that is numbered in. -/
theorem parent_fullPath {path filename : Text} {value : Nat} (proper : Proper filename)
    (absolute : (provider.fullPath lowercase path value filename).parent.isAbsolute = true) :
    (provider.fullPath lowercase path value filename).parent.drive = [] ∧
      (provider.fullPath lowercase path value filename).parent.root = (parse .posix path).root ∧
      (provider.fullPath lowercase path value filename).parent.parts =
        (parse .posix path).parts ++ provider.below value filename := by
  obtain ⟨relative, named⟩ := proper
  have apart : (provider.numbered value filename).head? ≠ some '/' :=
    head?_padded provider.maxDigits value _
  obtain ⟨rootless, number⟩ := parse_relative_posix apart
  obtain ⟨bare, file⟩ := parse_relative_posix relative
  set text := posixJoin (parse .posix path).display (provider.numbered value filename)
  have shape : provider.fullPath lowercase path value filename =
      join lowercase (parse .posix text) (filename.rdropWhile (· == '_')) := rfl
  have first : join lowercase (parse .posix path) (provider.numbered value filename) =
      parse .posix text := rfl
  have rooted : (parse .posix path).root ≠ [] := by
    intro none
    have inner : (parse .posix text).root = [] := by
      rw [← first]
      exact join_rootless_posix none apart
    have outer : (provider.fullPath lowercase path value filename).root = [] := by
      rw [shape]
      exact join_rootless_posix inner relative
    exact (isAbsolute_iff rfl).mp absolute outer
  have inner := join_relative_posix lowercase ((isAbsolute_iff rfl).mpr rooted) rootless
  rw [first, number] at inner
  have inner_rooted : (parse .posix text).root ≠ [] := inner.2.1 ▸ rooted
  have outer := join_relative_posix lowercase
    ((isAbsolute_iff rfl).mpr inner_rooted) bare
  rw [← shape, file, inner.1, inner.2.1, inner.2.2] at outer
  refine ⟨outer.1.trans (slashes_parse path).1, outer.2.1, ?_⟩
  have parts : (provider.fullPath lowercase path value filename).parent.parts =
      (provider.fullPath lowercase path value filename).parts.dropLast := rfl
  rw [parts, outer.2.2, List.dropLast_append_of_ne_nil named, below, List.append_assoc]

/-- A directory that was given: its number, where it is, and what the call found. -/
structure Given where
  number : Nat
  info : PathInfo
  base : PathInfo
  call : PathCall

/-- The counter, and what was given, the last one first. -/
structure State where
  nextValue : Nat
  given : List Given

/-- One call: what it gives, if it gives something, is put down. -/
def step (provider : AutoMaxIncrementing) (lowercase : Lowercase) (state : State) (call : PathCall) :
    Option State :=
  match provider.pathInfo lowercase call state.nextValue, call.base with
  | (.ok (number, info), nextValue), .ok base =>
      some ⟨nextValue, ⟨number, info, base, call⟩ :: state.given⟩
  | (_, nextValue), _ => some { state with nextValue := nextValue }

/-- The directory that a call numbers in. -/
def directory (provider : AutoMaxIncrementing) (call : PathCall) (base : PathInfo) : Text :=
  provider.path call.today (toPathBuf base.directoryPath)

/-- A numbered directory of another day. -/
def OtherDays (call : PathCall) (base : PathInfo) (number : Nat) : Prop :=
  ∃ entries day listing, call.fs.readDir (toPathBuf base.directoryPath) = .ok entries ∧
    Days entries day ∧ day ≠ call.today.text ∧
    call.fs.readDir (posixJoin (toPathBuf base.directoryPath) day) = .ok listing ∧
    Numbers listing number

/-- No directory is given twice or exists, the numbers increase, and, dated, each exceeds those of the
other days. -/
structure FreshPaths (provider : AutoMaxIncrementing) (given : List Given) : Prop where
  increasing : given.Pairwise fun later earlier => earlier.number < later.number
  distinct : given.Pairwise fun later earlier =>
    toPathBuf later.info.directoryPath ≠ toPathBuf earlier.info.directoryPath
  absent : ∀ one ∈ given, one.call.fs.isDir (toPathBuf one.info.directoryPath) = false
  past : provider.dated = true → ∀ one ∈ given, ∀ number, OtherDays one.call one.base number →
    number < one.number

/-- What a call must find. -/
structure Clear (provider : AutoMaxIncrementing) (state : State) (call : PathCall)
    (base : PathInfo) : Prop where
  proper : Proper base.filename
  above : ∀ top, call.fs.pathExists (provider.directory call base) = true →
    highestNumberedDir call.fs (provider.directory call base) = .ok (some top) →
    (∀ one ∈ state.given, one.number ≤ top) ∧
      (provider.dated = true → ∀ number, OtherDays call base number → number ≤ top)
  apart : ∀ one ∈ state.given,
    parse .posix (provider.directory one.call one.base) = parse .posix (provider.directory call base) ∨
    (¬(parse .posix (provider.directory one.call one.base)).parts <+:
        (parse .posix (provider.directory call base)).parts ∧
      ¬(parse .posix (provider.directory call base)).parts <+:
        (parse .posix (provider.directory one.call one.base)).parts) ∨
    ('/' ∉ one.base.filename ∧ '/' ∉ base.filename)
  counter : state.nextValue + 1 < 2 ^ 64
  top : ∀ top, call.fs.pathExists (provider.directory call base) = true →
    highestNumberedDir call.fs (provider.directory call base) = .ok (some top) → top + 2 < 2 ^ 64
  tops : provider.dated = true → ∀ entries day top,
    call.fs.readDir (toPathBuf base.directoryPath) = .ok entries → Days entries day →
    highestNumberedDir call.fs (posixJoin (toPathBuf base.directoryPath) day) = .ok (some top) →
    top + 2 < 2 ^ 64

/-- The base provider fails, or the call finds what it must. -/
def Meets (provider : AutoMaxIncrementing) (state : State) (call : PathCall) : Prop :=
  ∀ base, call.base = .ok base → Clear provider state call base

/-- Every call is made, and puts down at most what it gives itself. -/
theorem step_spec (provider : AutoMaxIncrementing) (lowercase : Lowercase) (state : State)
    (call : PathCall) : ∃ after, step provider lowercase state call = some after ∧
      ∀ one ∈ after.given, one ∈ state.given ∨ (one.call = call ∧ call.base = .ok one.base) := by
  unfold step
  split
  · rename_i based
    refine ⟨_, rfl, List.forall_mem_cons.mpr ⟨.inr ⟨rfl, based⟩, fun one member => .inl member⟩⟩
  · exact ⟨_, rfl, fun one member => .inl member⟩

/-- Any calls make a run. -/
theorem exists_run (provider : AutoMaxIncrementing) (lowercase : Lowercase) (calls : List PathCall)
    (state : State) : ∃ reached, exec (step provider lowercase) state calls = some reached := by
  induction calls generalizing state with
  | nil => exact ⟨state, rfl⟩
  | cons call rest ih =>
      obtain ⟨after, stepped, _⟩ := step_spec provider lowercase state call
      obtain ⟨reached, run⟩ := ih after
      exact ⟨reached, by rw [exec, stepped]; exact run⟩

section Calls

variable {call : PathCall} {base : PathInfo} {nextValue : Nat}

theorem le_raised (provider : AutoMaxIncrementing) (fs : FileSystem) (baseDir : Text) (nextValue : Nat) :
    nextValue ≤ (provider.raised fs baseDir nextValue).2 := by
  unfold raised
  split
  · split
    · exact Nat.le_refl _
    · exact le_raisePastDays _ _
  · exact Nat.le_refl _

theorem raised_le (provider : AutoMaxIncrementing) {fs : FileSystem} {baseDir : Text} {bound : Nat}
    (tops : provider.dated = true → ∀ entries, fs.readDir baseDir = .ok entries →
      TopsUpTo fs baseDir entries bound) (le : nextValue ≤ bound) : (provider.raised fs baseDir nextValue).2 ≤ bound := by
  unfold raised
  split
  · rename_i dated
    split
    · exact le
    · rename_i entries listing
      exact raisePastDays_le (tops dated entries listing) le
  · exact le

/-- A call fails and leaves the counter where it was or higher, or it comes through the days to a
value, the number, and leaves the one behind it. -/
theorem pathInfo_cases (provider : AutoMaxIncrementing) (lowercase : Lowercase) (call : PathCall)
    (nextValue : Nat) :
    (∃ err after, provider.pathInfo lowercase call nextValue = (.error err, after) ∧
      nextValue ≤ after) ∨
    ∃ base raised number, call.base = .ok base ∧
      provider.raised call.fs (toPathBuf base.directoryPath) nextValue = (.ok (), raised) ∧
      value call.fs (provider.directory call base) raised = .ok number ∧
      provider.pathInfo lowercase call nextValue =
        ((PathInfo.new (provider.fullPath lowercase (provider.directory call base) number
            base.filename).parent
          (provider.fullPath lowercase (provider.directory call base) number base.filename).name 0
          none).map (number, ·), next number) := by
  unfold pathInfo
  cases based : call.base with
  | error err => exact .inl ⟨err, nextValue, rfl, Nat.le_refl _⟩
  | ok base =>
      have le := le_raised provider call.fs (toPathBuf base.directoryPath) nextValue
      simp only
      rcases come : provider.raised call.fs (toPathBuf base.directoryPath) nextValue with
        ⟨result, raised⟩
      rw [come] at le
      cases result with
      | error err => exact .inl ⟨err, raised, rfl, le⟩
      | ok through =>
          cases valued : value call.fs (provider.directory call base) raised with
          | error err =>
              refine .inl ⟨err, raised, ?_, le⟩
              rw [directory] at valued
              simp only [valued]
          | ok number =>
              refine .inr ⟨base, raised, number, rfl, come, valued, ?_⟩
              rw [directory] at valued
              simp only [valued]
              rfl

theorem next_of_lt {top : Nat} (small : top + 1 < 2 ^ 64) : next top = top + 1 :=
  Nat.mod_eq_of_lt small

/-- A value is the counter, or one past the highest number of a directory that exists. -/
theorem value_cases {fs : FileSystem} {path : Text} {number : Nat}
    (valued : value fs path nextValue = .ok number) :
    (number = nextValue ∧ (fs.pathExists path = true → highestNumberedDir fs path = .ok none)) ∨
      ∃ top, fs.pathExists path = true ∧ highestNumberedDir fs path = .ok (some top) ∧
        number = next top := by
  unfold value at valued
  split at valued
  · rename_i present
    cases found : highestNumberedDir fs path with
    | error err =>
        rw [found] at valued
        cases valued
    | ok highest =>
        rw [found] at valued
        cases highest with
        | none =>
            cases valued
            exact .inl ⟨rfl, fun _ => rfl⟩
        | some top =>
            cases valued
            exact .inr ⟨top, present, rfl, rfl⟩
  · rename_i missing
    cases valued
    exact .inl ⟨rfl, fun present => absurd present missing⟩

/-- No directory there has the number. -/
theorem not_numbers_value {fs : FileSystem} {path : Text} {number : Nat}
    {entries : List (Except Text DirEntry)} (valued : value fs path nextValue = .ok number)
    (present : fs.pathExists path = true) (listing : fs.readDir path = .ok entries)
    (small : ∀ top, fs.pathExists path = true → highestNumberedDir fs path = .ok (some top) →
      top + 1 < 2 ^ 64) : ¬Numbers entries number := by
  intro among
  rcases value_cases valued with ⟨_, bare⟩ | ⟨top, _, found, rfl⟩
  · obtain ⟨top, absent, _⟩ := le_highestNumberedDir (bare present) listing among
    cases absent
  · obtain ⟨other, same, le⟩ := le_highestNumberedDir found listing among
    cases same
    rw [next_of_lt (small top present found)] at le
    omega

/-- The number exceeds those given before. -/
theorem given_lt_value {state : State} {raised number : Nat} (clear : Clear provider state call base)
    (ahead : ∀ one ∈ state.given, one.number < state.nextValue)
    (come : provider.raised call.fs (toPathBuf base.directoryPath) state.nextValue = (.ok (), raised))
    (valued : value call.fs (provider.directory call base) raised = .ok number) :
    ∀ one ∈ state.given, one.number < number := by
  intro one member
  have le := le_raised provider call.fs (toPathBuf base.directoryPath) state.nextValue
  rw [come] at le
  rcases value_cases valued with ⟨rfl, _⟩ | ⟨top, present, found, rfl⟩
  · exact Nat.lt_of_lt_of_le (ahead one member) le
  · rw [next_of_lt (Nat.lt_of_succ_lt (clear.top top present found))]
    exact Nat.lt_succ_of_le ((clear.above top present found).1 one member)

/-- Dated, the number exceeds those of the other days. -/
theorem otherDays_lt_value {state : State} {raised number other : Nat}
    (clear : Clear provider state call base) (dated : provider.dated = true)
    (come : provider.raised call.fs (toPathBuf base.directoryPath) nextValue = (.ok (), raised))
    (valued : value call.fs (provider.directory call base) raised = .ok number)
    (elsewhere : OtherDays call base other) : other < number := by
  rcases value_cases valued with ⟨rfl, _⟩ | ⟨top, present, found, rfl⟩
  · obtain ⟨entries, day, listing, all, among, _, inside, numbered⟩ := elsewhere
    rw [AutoMaxIncrementing.raised, if_pos dated, all] at come
    have through := congrArg Prod.fst come
    have past := raisePastDays_past through among
    obtain ⟨highest, found, tops⟩ := past
    obtain ⟨top, rfl, le⟩ := le_highestNumberedDir found inside numbered
    have below := tops top rfl
    rw [next_of_lt (Nat.lt_of_succ_lt (clear.tops dated entries day top all among found))] at below
    have last : (raisePastDays call.fs (toPathBuf base.directoryPath) entries nextValue).2 = number :=
      congrArg Prod.snd come
    omega
  · rw [next_of_lt (Nat.lt_of_succ_lt (clear.top top present found))]
    exact Nat.lt_succ_of_le ((clear.above top present found).2 dated other elsewhere)

/-- Where a directory was given, and by what number. -/
structure Placed (provider : AutoMaxIncrementing) (one : Given) : Prop where
  posix : one.info.directoryPath.flavor = .posix
  drive : one.info.directoryPath.drive = []
  root : one.info.directoryPath.root = (parse .posix (provider.directory one.call one.base)).root
  parts : one.info.directoryPath.parts =
    (parse .posix (provider.directory one.call one.base)).parts ++
      provider.below one.number one.base.filename
  fits : one.number < 2 ^ 64

theorem Placed.display {one : Given} (placed : Placed provider one) :
    toPathBuf one.info.directoryPath = one.info.directoryPath.display := by
  rw [toPathBuf, placed.posix]

/-- The directory as it is printed is parsed to the directory. -/
theorem Placed.parse_display {one : Given} (placed : Placed provider one) :
    parse .posix (toPathBuf one.info.directoryPath) = one.info.directoryPath := by
  rw [placed.display]
  exact parse_display_of_slashes _ placed.posix placed.drive
    (placed.root ▸ (slashes_parse (provider.directory one.call one.base)).2)

theorem below_cons (provider : AutoMaxIncrementing) (number : Nat) (filename : Text) :
    ∃ rest more, provider.below number filename =
      (padded provider.maxDigits number ++ '_' :: rest) :: more := by
  obtain ⟨rest, more, shape, _⟩ := names_padded provider.maxDigits number
    ((filename.rdropWhile (· == '_')).dropWhile (· == '_'))
  exact ⟨rest, _, by rw [below, numbered, shape, List.cons_append]⟩

/-- What is given does not exist. -/
theorem Placed.absent {one : Given} {raised : Nat} (placed : Placed provider one)
    (valued : value one.call.fs (provider.directory one.call one.base) raised = .ok one.number)
    (small : ∀ top, one.call.fs.pathExists (provider.directory one.call one.base) = true →
      highestNumberedDir one.call.fs (provider.directory one.call one.base) = .ok (some top) →
      top + 1 < 2 ^ 64) :
    one.call.fs.isDir (toPathBuf one.info.directoryPath) = false := by
  by_contra present
  obtain ⟨rest, more, shape⟩ := below_cons provider one.number one.base.filename
  have other : padded provider.maxDigits one.number ++ '_' :: rest ≠ ['.', '.'] := by
    intro same
    have inside : '_' ∈ (['.', '.'] : Text) := same ▸ List.mem_append_right _ List.mem_cons_self
    simp at inside
  obtain ⟨above, listed⟩ := one.call.fs.listed (provider.directory one.call one.base)
    (toPathBuf one.info.directoryPath) (padded provider.maxDigits one.number ++ '_' :: rest) more
    (by rw [placed.parse_display, placed.root]) (by rw [placed.parse_display, placed.parts, shape])
    other (by simpa using present)
  have read : ∃ entries, one.call.fs.readDir (provider.directory one.call one.base) = .ok entries := by
    rcases value_cases valued with ⟨_, bare⟩ | ⟨top, _, found, _⟩
    · exact readDir_of_highest (bare above)
    · exact readDir_of_highest found
  obtain ⟨entries, listing⟩ := read
  exact not_numbers_value valued above listing small
    ⟨_, listed entries listing, rfl, numberOf_padded placed.fits rest⟩

theorem Placed.of_new {info : PathInfo} {number : Nat} (proper : Proper base.filename)
    (fits : number < 2 ^ 64)
    (made : PathInfo.new (provider.fullPath lowercase (provider.directory call base) number
        base.filename).parent
      (provider.fullPath lowercase (provider.directory call base) number base.filename).name 0 none =
        .ok info) : Placed provider ⟨number, info, base, call⟩ := by
  have same := PathInfo.new_ok made
  obtain ⟨drive, root, parts⟩ := parent_fullPath proper (same ▸ info.absolute)
  exact ⟨congrArg PurePath.flavor same, (congrArg PurePath.drive same).trans drive,
    (congrArg PurePath.root same).trans root, (congrArg PurePath.parts same).trans parts, fits⟩

/-- Numbered names that are the same have the same number. -/
theorem eq_of_padded {width other first second : Nat} {rest more : Text} (fits : first < 2 ^ 64)
    (held : second < 2 ^ 64)
    (same : padded width first ++ '_' :: rest = padded other second ++ '_' :: more) :
    first = second := by
  have numbers := congrArg numberOf same
  rw [numberOf_padded fits, numberOf_padded held] at numbers
  exact Option.some.inj numbers

/-- A file name without `/` is one name below the directory that is numbered in. -/
theorem below_of_plain (provider : AutoMaxIncrementing) {filename : Text} (plain : '/' ∉ filename) (number : Nat) : ∃ rest, provider.below number filename =
      [padded provider.maxDigits number ++ '_' :: rest] := by
  have stripped : '/' ∉ filename.rdropWhile (· == '_') :=
    fun inside => plain ((List.rdropWhile_prefix _ filename).subset inside)
  have trimmed : '/' ∉ (filename.rdropWhile (· == '_')).dropWhile (· == '_') :=
    fun inside => stripped ((List.dropWhile_suffix _).subset inside)
  obtain ⟨rest, more, shape, only⟩ := names_padded provider.maxDigits number _
  refine ⟨rest, ?_⟩
  rw [below, numbered, shape, only trimmed]
  have one : (names .posix (filename.rdropWhile (· == '_'))).length ≤ 1 := by
    rw [names, Flavor.sep, segments_clean stripped]
    exact List.length_filter_le _ _
  have none : (names .posix (filename.rdropWhile (· == '_'))).dropLast = [] := by
    rw [← List.length_eq_zero_iff, List.length_dropLast]
    omega
  rw [none]
  rfl

/-- Two directories that do not lie one in the other, or are one, or number plain file names, give
other directories under other numbers. -/
theorem Placed.distinct {one other : Given} (first : Placed provider one) (second : Placed provider other)
    (numbers : one.number ≠ other.number)
    (apart : parse .posix (provider.directory one.call one.base) =
        parse .posix (provider.directory other.call other.base) ∨
      (¬(parse .posix (provider.directory one.call one.base)).parts <+:
          (parse .posix (provider.directory other.call other.base)).parts ∧
        ¬(parse .posix (provider.directory other.call other.base)).parts <+:
          (parse .posix (provider.directory one.call one.base)).parts) ∨
      ('/' ∉ one.base.filename ∧ '/' ∉ other.base.filename)) :
    toPathBuf one.info.directoryPath ≠ toPathBuf other.info.directoryPath := by
  intro same
  have paths : one.info.directoryPath = other.info.directoryPath := by
    rw [← first.parse_display, same, second.parse_display]
  have parts := congrArg PurePath.parts paths
  rw [first.parts, second.parts] at parts
  refine numbers ?_
  rcases apart with equal | ⟨notBelow, notAbove⟩ | ⟨plain, simple⟩
  · rw [equal] at parts
    obtain ⟨rest, more, shape⟩ := below_cons provider one.number one.base.filename
    obtain ⟨last, tail, form⟩ := below_cons provider other.number other.base.filename
    rw [shape, form] at parts
    exact eq_of_padded first.fits second.fits (List.cons.inj (List.append_cancel_left parts)).1
  · exfalso
    rcases Nat.le_total (parse .posix (provider.directory one.call one.base)).parts.length
      (parse .posix (provider.directory other.call other.base)).parts.length with le | le
    · exact notBelow (List.prefix_of_prefix_length_le ⟨_, parts⟩ ⟨_, rfl⟩ le)
    · exact notAbove (List.prefix_of_prefix_length_le ⟨_, rfl⟩ ⟨_, parts⟩ le)
  · obtain ⟨rest, shape⟩ := below_of_plain provider plain one.number
    obtain ⟨last, form⟩ := below_of_plain provider simple other.number
    rw [shape, form] at parts
    have ends := congrArg List.getLast? parts
    rw [List.getLast?_concat, List.getLast?_concat] at ends
    exact eq_of_padded first.fits second.fits (Option.some.inj ends)

/-- The number of a call that finds what it must is not the last of `u64`. -/
theorem value_lt {state : State} {raised number : Nat} (clear : Clear provider state call base)
    (come : provider.raised call.fs (toPathBuf base.directoryPath) state.nextValue = (.ok (), raised))
    (valued : value call.fs (provider.directory call base) raised = .ok number) :
    number + 1 < 2 ^ 64 := by
  rcases value_cases valued with ⟨rfl, _⟩ | ⟨top, present, found, rfl⟩
  · have tops : provider.dated = true → ∀ entries,
        call.fs.readDir (toPathBuf base.directoryPath) = .ok entries →
        TopsUpTo call.fs (toPathBuf base.directoryPath) entries (2 ^ 64 - 2) := by
      intro dated entries listing day top among found
      have small := clear.tops dated entries day top listing among found
      rw [next_of_lt (Nat.lt_of_succ_lt small)]
      omega
    have counter := clear.counter
    have le := raised_le provider tops (by omega : state.nextValue ≤ 2 ^ 64 - 2)
    rw [come] at le
    simp only at le
    omega
  · have small := clear.top top present found
    rw [next_of_lt (Nat.lt_of_succ_lt small)]
    exact small

/-- What every call keeps: the directories given are placed and fresh, and the counter is past their
numbers. -/
structure Kept (provider : AutoMaxIncrementing) (state : State) : Prop where
  placed : ∀ one ∈ state.given, Placed provider one
  fresh : FreshPaths provider state.given
  ahead : ∀ one ∈ state.given, one.number < state.nextValue

/-- A call that finds what it must keeps the directories fresh. -/
theorem Kept.step {state after : State} (stepped : step provider lowercase state call = some after)
    (meets : Meets provider state call) (kept : Kept provider state) : Kept provider after := by
  rcases pathInfo_cases provider lowercase call state.nextValue with
    ⟨err, later, failed, le⟩ | ⟨base, raised, number, based, come, valued, result⟩
  · rw [AutoMaxIncrementing.step, failed] at stepped
    cases stepped
    exact ⟨kept.placed, kept.fresh, fun one member => Nat.lt_of_lt_of_le (kept.ahead one member) le⟩
  · have clear := meets base based
    have numbers := given_lt_value clear kept.ahead come valued
    have small := value_lt clear come valued
    rw [AutoMaxIncrementing.step, result, based, next_of_lt small] at stepped
    cases made : PathInfo.new (provider.fullPath lowercase (provider.directory call base) number
        base.filename).parent
      (provider.fullPath lowercase (provider.directory call base) number base.filename).name 0 none with
    | error err =>
        rw [made] at stepped
        cases stepped
        exact ⟨kept.placed, kept.fresh, fun one member => Nat.lt_succ_of_lt (numbers one member)⟩
    | ok info =>
        rw [made] at stepped
        cases stepped
        have placed := Placed.of_new clear.proper (Nat.lt_of_succ_lt small) made
        refine ⟨?_, ⟨?_, ?_, ?_, ?_⟩, ?_⟩
        · exact List.forall_mem_cons.mpr ⟨placed, kept.placed⟩
        · exact List.pairwise_cons.mpr ⟨numbers, kept.fresh.increasing⟩
        · refine List.pairwise_cons.mpr ⟨fun one member => ?_, kept.fresh.distinct⟩
          exact Ne.symm ((kept.placed one member).distinct placed
            (Nat.ne_of_lt (numbers one member)) (clear.apart one member))
        · exact List.forall_mem_cons.mpr
            ⟨placed.absent valued fun top present found =>
              Nat.lt_of_succ_lt (clear.top top present found), kept.fresh.absent⟩
        · intro dated
          exact List.forall_mem_cons.mpr
            ⟨fun other => otherDays_lt_value clear dated come valued, kept.fresh.past dated⟩
        · exact List.forall_mem_cons.mpr
            ⟨Nat.lt_succ_self _, fun one member => Nat.lt_succ_of_lt (numbers one member)⟩

/-- In every run whose calls find what they must, the directories are fresh. -/
theorem fresh_of_meets (provider : AutoMaxIncrementing) (lowercase : Lowercase) (startingValue : Nat)
    (calls : List PathCall) (reached : State)
    (trace : exec (step provider lowercase) ⟨startingValue, []⟩ calls = some reached)
    (met : Throughout (step provider lowercase) (Meets provider) ⟨startingValue, []⟩ calls) :
    FreshPaths provider reached.given := by
  refine (exec_invariant_throughout (Kept provider)
    (fun before label after stepped meets kept => kept.step stepped meets) trace met ⟨?_, ?_, ?_⟩).fresh
  · exact fun one absent => by cases absent
  · exact { increasing := .nil, distinct := .nil, absent := by simp, past := by simp }
  · exact fun one absent => by cases absent

/-- A call for `x` in `/d`, of a file system of directories. -/
def callFor (dirs : List (List Text)) (closed : ∀ dir ∈ dirs, ∀ above ∈ dir.inits, above ∈ dirs) :
    PathCall :=
  ⟨PathInfo.new (parse .posix ['/', 'd']) ['x'] 0 none, ⟨2026, 1, 2⟩, FileSystem.ofDirs dirs closed⟩

/-- Two days of `/d`: the first holds number 7, the second what is numbered. -/
private def dayDirs (numbered : List Text) : List (List Text) :=
  [[], [['d']], [['d'], "2026-01-01".toList], [['d'], "2026-01-01".toList, "0007_x".toList],
    [['d'], "2026-01-02".toList]] ++ numbered.map fun name => [['d'], "2026-01-02".toList, name]

/-- The call on the second day before anything is made. -/
private def firstCall : PathCall :=
  callFor (dayDirs ["0042_x".toList]) (by decide)

/-- The call once the directory that the first one gave is there. -/
private def laterCall : PathCall :=
  callFor (dayDirs ["0042_x".toList, "0043_x".toList]) (by decide)

/-- What both calls find but for today's numbers. -/
private structure FindsDays (call : PathCall) (top : Nat) : Prop where
  base : call.base = PathInfo.new (parse .posix ['/', 'd']) ['x'] 0 none
  today : call.today = ⟨2026, 1, 2⟩
  days : call.fs.readDir ['/', 'd'] =
    .ok [.ok ⟨some "2026-01-01".toList, true⟩, .ok ⟨some "2026-01-02".toList, true⟩]
  before : highestNumberedDir call.fs (posixJoin ['/', 'd'] "2026-01-01".toList) = .ok (some 7)
  now : highestNumberedDir call.fs (posixJoin ['/', 'd'] "2026-01-02".toList) = .ok (some top)

private theorem FindsDays.day {call : PathCall} {top : Nat} (finds : FindsDays call top)
    {entries : List (Except Text DirEntry)} {day : Text}
    (listing : call.fs.readDir ['/', 'd'] = .ok entries) (among : Days entries day) :
    day = "2026-01-01".toList ∨ day = "2026-01-02".toList := by
  cases finds.days.symm.trans listing
  obtain ⟨entry, member, named, _⟩ := among
  simp only [List.mem_cons, Except.ok.injEq, List.not_mem_nil, or_false] at member
  rcases member with rfl | rfl
  · exact .inl (Option.some.inj named).symm
  · exact .inr (Option.some.inj named).symm

private theorem FindsDays.meets {call : PathCall} {top : Nat} {state : State}
    (finds : FindsDays call top) (least : 7 ≤ top) (small : top + 2 < 2 ^ 64)
    (counter : state.nextValue + 1 < 2 ^ 64)
    (given : ∀ one ∈ state.given, one.number ≤ top ∧ one.call.base = .ok one.base ∧
      ∃ number, FindsDays one.call number) : Meets ⟨4, true⟩ state call := by
  intro base based
  have placed : ∀ (other : PathCall) (base : PathInfo) (number : Nat), FindsDays other number →
      other.base = .ok base → toPathBuf base.directoryPath = ['/', 'd'] ∧ base.filename = ['x'] ∧
        directory ⟨4, true⟩ other base = posixJoin ['/', 'd'] "2026-01-02".toList := by
    intro other base number found based
    cases found.base.symm.trans based
    refine ⟨rfl, rfl, ?_⟩
    rw [directory, path, found.today]
    rfl
  obtain ⟨inside, named, numbered⟩ := placed call base top finds based
  refine ⟨by rw [named]; decide, ?_, ?_, counter, ?_, ?_⟩
  · intro highest present found
    rw [numbered, finds.now] at found
    cases found
    refine ⟨fun one member => (given one member).1, fun _ number other => ?_⟩
    obtain ⟨entries, day, listing, listed, among, apart, read, numbers⟩ := other
    rw [inside] at listed read
    rcases finds.day listed among with rfl | rfl
    · obtain ⟨_, same, le⟩ := le_highestNumberedDir finds.before read numbers
      cases same
      exact Nat.le_trans le least
    · rw [finds.today] at apart
      exact absurd rfl apart
  · intro one member
    obtain ⟨_, own, number, found⟩ := given one member
    exact .inl (by rw [(placed one.call one.base number found own).2.2, numbered])
  · intro highest present found
    rw [numbered, finds.now] at found
    cases found
    exact small
  · intro _ entries day highest listed among found
    rw [inside] at listed found
    rcases finds.day listed among with rfl | rfl
    · rw [finds.before] at found
      cases found
      decide
    · rw [finds.now] at found
      cases found
      exact small

/-- A dated directory that holds number 42 beside another day's 7, numbered in twice. -/
theorem fresh_of_meets_twice :
    ∃ reached, exec (step ⟨4, true⟩ asciiLowercase) ⟨0, []⟩ [firstCall, laterCall] = some reached ∧
      reached.given.map Given.number = [44, 43] ∧ FreshPaths ⟨4, true⟩ reached.given := by
  have first : FindsDays firstCall 42 := ⟨rfl, rfl, rfl, rfl, rfl⟩
  have later : FindsDays laterCall 43 := ⟨rfl, rfl, rfl, rfl, rfl⟩
  have numbers : (exec (step ⟨4, true⟩ asciiLowercase) ⟨0, []⟩ [firstCall, laterCall]).map
      (fun state => state.given.map Given.number) = some [44, 43] := by decide
  obtain ⟨reached, run⟩ := exists_run ⟨4, true⟩ asciiLowercase [firstCall, laterCall] ⟨0, []⟩
  rw [run] at numbers
  refine ⟨reached, run, Option.some.inj numbers,
    fresh_of_meets ⟨4, true⟩ asciiLowercase 0 _ reached run ⟨?_, fun after stepped => ⟨?_, ?_⟩⟩⟩
  · exact first.meets (by decide) (by decide) (by decide) (by simp)
  · obtain ⟨_, same, given⟩ := step_spec ⟨4, true⟩ asciiLowercase ⟨0, []⟩ firstCall
    cases Option.some.inj (same.symm.trans stepped)
    have counted : (step ⟨4, true⟩ asciiLowercase ⟨0, []⟩ firstCall).map
        (fun state => (state.nextValue, state.given.map Given.number)) = some (44, [43]) := by decide
    rw [same, Option.map_some, Option.some.injEq, Prod.mk.injEq] at counted
    refine later.meets (by decide) (by decide) (by rw [counted.1]; decide) fun one member => ?_
    obtain ⟨call, based⟩ := (given one member).resolve_left (by simp)
    have number : one.number ∈ after.given.map Given.number := List.mem_map_of_mem member
    rw [counted.2, List.mem_singleton] at number
    exact ⟨by omega, call ▸ based, 42, call ▸ first⟩
  · exact fun _ _ => trivial

/-- Where the first directory that is given is not made, the second is the same. -/
theorem unfresh_of_unmade :
    ¬∀ reached, exec (step ⟨4, false⟩ asciiLowercase) ⟨0, []⟩
        (List.replicate 2 (callFor [[], [['d']], [['d'], "0005_x".toList]] (by decide))) =
        some reached → FreshPaths ⟨4, false⟩ reached.given := by
  intro fresh
  obtain ⟨reached, run⟩ := exists_run ⟨4, false⟩ asciiLowercase
    (List.replicate 2 (callFor [[], [['d']], [['d'], "0005_x".toList]] (by decide))) ⟨0, []⟩
  have numbers : (exec (step ⟨4, false⟩ asciiLowercase) ⟨0, []⟩
      (List.replicate 2 (callFor [[], [['d']], [['d'], "0005_x".toList]] (by decide)))).map
        (fun state => state.given.map Given.number) = some [6, 6] := by decide
  rw [run] at numbers
  have listed : reached.given.map Given.number = [6, 6] := Option.some.inj numbers
  have increasing : (reached.given.map Given.number).Pairwise fun later earlier => earlier < later :=
    List.pairwise_map.mpr (fresh reached run).increasing
  rw [listed] at increasing
  exact absurd increasing (by decide)

end Calls

end AutoMaxIncrementing

end Bsrs.Devices
