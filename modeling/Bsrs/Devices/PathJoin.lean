import Bsrs.Devices.PurePath

/-! What a printed path is parsed to, and what two joined paths are. -/

namespace Bsrs.Devices

open Bsrs.Library (cut_cases segments_append segments_clean segments_nil segments_behind segments_intercalate
  intercalate_cons intercalate_concat mem_intercalate)

namespace PurePath

variable {flavor : Flavor} {lowercase : Lowercase} {path : PurePath}

/-- The names as they are printed. -/
def tail (path : PurePath) : Text :=
  [path.flavor.sep].intercalate path.parts

theorem tail_of_none (none : path.parts = []) : path.tail = [] := by
  rw [tail, none]
  rfl

theorem names_tail (path : PurePath) : names path.flavor path.tail = path.parts :=
  segments_intercalate rfl (fun part member => (path.named part member).2.2)
    fun part member => (path.named part member).1

theorem display_of_nonempty (nonempty : ¬(path.drive = [] ∧ path.root = [] ∧ path.parts = [])) :
    path.display = path.drive ++ path.root ++ path.tail :=
  if_neg nonempty

/-- A text whose split and names are a path's is parsed to the path. -/
theorem parse_eq (path : PurePath) {text rest : Text}
    (split : splitRoot path.flavor (normalize path.flavor text) = ⟨path.drive, path.root, rest⟩)
    (parts : names path.flavor rest = path.parts) : parse path.flavor text = path := by
  apply PurePath.ext
  · rfl
  · exact congrArg Split.drive split
  · exact congrArg Split.root split
  · exact (congrArg (fun split : Split => names path.flavor split.rest) split).trans parts

/-- A name begins with neither separator. -/
theorem head?_tail (path : PurePath) :
    path.tail.head? ≠ some '/' ∧ path.tail.head? ≠ some path.flavor.sep := by
  unfold tail
  cases shape : path.parts with
  | nil => exact ⟨by simp, by simp⟩
  | cons first others =>
      obtain ⟨isName, noSlash, noSep⟩ := path.named first (by rw [shape]; exact List.mem_cons_self)
      obtain ⟨behind, whole, _⟩ := intercalate_cons path.flavor.sep first others
      rw [whole]
      cases first with
      | nil => cases isName
      | cons head rest =>
          exact ⟨fun same => noSlash (Option.some.inj same ▸ List.mem_cons_self),
            fun same => noSep (Option.some.inj same ▸ List.mem_cons_self)⟩

/-- The last name does not end in a separator. -/
theorem getLast?_tail (path : PurePath) : path.tail.getLast? ≠ some path.flavor.sep := by
  unfold tail
  rcases List.eq_nil_or_concat path.parts with none | ⟨front, last, shape⟩
  · rw [none]
    simp
  · rw [List.concat_eq_append] at shape
    obtain ⟨isName, _, noSep⟩ := path.named last (by rw [shape]; simp)
    obtain ⟨ahead, whole⟩ := intercalate_concat path.flavor.sep front last
    rw [shape, whole]
    have nonempty : last ≠ [] := by
      rintro rfl
      cases isName
    rw [List.getLast?_append_of_ne_nil _ nonempty]
    exact fun ends => noSep (List.mem_of_getLast? ends)

theorem slash_notMem_tail (windows : path.flavor = .windows) : '/' ∉ path.tail := by
  intro inside
  obtain ⟨part, member, within⟩ := mem_intercalate (by rw [windows]; decide) inside
  exact (path.named part member).2.1 within

/-- The names of a printed path with a text behind it. -/
theorem names_tail_append (path : PurePath) (text : Text) :
    names path.flavor (path.tail ++ path.flavor.sep :: text) =
      path.parts ++ names path.flavor text := by
  rw [names, segments_append]
  exact congrArg (· ++ _) (names_tail path)

theorem isAbsolute_iff (posix : path.flavor = .posix) : path.isAbsolute = true ↔ path.root ≠ [] := by
  rw [isAbsolute, posix]
  simp

/-- A path without drive, root and names is printed as `.`. -/
theorem parse_dot (empty : path.drive = [] ∧ path.root = [] ∧ path.parts = []) :
    parse path.flavor ['.'] = path := by
  obtain ⟨drive, root, parts⟩ := empty
  obtain ⟨flavor, _, _, _, _⟩ := path
  subst drive root parts
  cases flavor <;> rfl

section Posix

variable {text segment : Text}

/-- A posix path's root is none, one or two slashes. -/
theorem slashes_parse (text : Text) : (parse .posix text).drive = [] ∧
    ((parse .posix text).root = [] ∨ (parse .posix text).root = ['/'] ∨
      (parse .posix text).root = ['/', '/']) :=
  splitPosixRoot_root text

/-- A posix path under no, one or two slashes is what is parsed of what is printed of it. -/
theorem parse_display_of_slashes (path : PurePath) (posix : path.flavor = .posix)
    (drive : path.drive = []) (slashes : path.root = [] ∨ path.root = ['/'] ∨ path.root = ['/', '/']) :
    parse .posix path.display = path := by
  by_cases empty : path.drive = [] ∧ path.root = [] ∧ path.parts = []
  · rw [display, if_pos empty]
    exact posix ▸ parse_dot empty
  · rw [display_of_nonempty empty, drive, List.nil_append]
    have split : splitRoot path.flavor (normalize path.flavor (path.root ++ path.tail)) =
        ⟨path.drive, path.root, path.tail⟩ := by
      rw [drive, posix]
      exact splitPosixRoot_rooted slashes (head?_tail path).1
    have same := parse_eq path split (names_tail path)
    rwa [posix] at same

theorem parse_display_posix (text : Text) :
    parse .posix (parse .posix text).display = parse .posix text :=
  parse_display_of_slashes _ rfl (slashes_parse text).1 (slashes_parse text).2

theorem head?_of_rooted (rooted : (parse .posix text).root ≠ []) : text.head? = some '/' := by
  by_contra rootless
  exact rooted (congrArg Split.root (splitPosixRoot_relative rootless))

/-- An absolute posix segment replaces the path. -/
theorem join_absolute_posix (absolute : (parse .posix segment).isAbsolute = true) :
    join lowercase (parse .posix text) segment = parse .posix segment := by
  have rooted := (isAbsolute_iff rfl).mp absolute
  exact congrArg (parse .posix) (if_pos (head?_of_rooted rooted))

/-- A root of slashes and what begins with none are parsed to just that. -/
theorem parse_slashes {root rest : Text} (slashes : root = [] ∨ root = ['/'] ∨ root = ['/', '/'])
    (rootless : rest.head? ≠ some '/') :
    (parse .posix (root ++ rest)).drive = [] ∧ (parse .posix (root ++ rest)).root = root ∧
      (parse .posix (root ++ rest)).parts = names .posix rest := by
  have split := splitPosixRoot_rooted slashes rootless
  exact ⟨congrArg Split.drive split, congrArg Split.root split,
    congrArg (fun split : Split => names .posix split.rest) split⟩

/-- What a posix path is joined to a relative segment as text. -/
theorem posixJoin_display (rooted : (parse .posix text).root ≠ [])
    (relative : segment.head? ≠ some '/') : posixJoin (parse .posix text).display segment =
      (parse .posix text).root ++ (if (parse .posix text).tail = [] then segment
        else (parse .posix text).tail ++ '/' :: segment) := by
  obtain ⟨drive, slashes⟩ := slashes_parse text
  rw [display_of_nonempty fun empty => rooted empty.2.1, drive, List.nil_append, posixJoin,
    if_neg relative]
  by_cases bare : (parse .posix text).tail = []
  · have ends : (parse .posix text).root.getLast? = some '/' := by
      rcases slashes with none | one | two
      · exact absurd none rooted
      · rw [one]
        rfl
      · rw [two]
        rfl
    rw [if_pos bare, bare, List.append_nil, if_pos (.inr ends)]
  · have last : ¬((parse .posix text).root ++ (parse .posix text).tail = [] ∨
        ((parse .posix text).root ++ (parse .posix text).tail).getLast? = some '/') := by
      rw [List.getLast?_append_of_ne_nil _ bare]
      rintro (empty | ends)
      · exact rooted (List.append_eq_nil_iff.mp empty).1
      · exact getLast?_tail (parse .posix text) ends
    rw [if_neg bare, if_neg last, List.append_assoc]

variable (lowercase) in
/-- A posix segment without a root is put behind an absolute path. -/
theorem join_relative_posix (absolute : (parse .posix text).isAbsolute = true)
    (rootless : (parse .posix segment).root = []) :
    (join lowercase (parse .posix text) segment).drive = (parse .posix text).drive ∧
      (join lowercase (parse .posix text) segment).root = (parse .posix text).root ∧
      (join lowercase (parse .posix text) segment).parts =
        (parse .posix text).parts ++ (parse .posix segment).parts := by
  have rooted := (isAbsolute_iff rfl).mp absolute
  have relative : segment.head? ≠ some '/' := fun slash => splitPosixRoot_slash slash rootless
  obtain ⟨drive, slashes⟩ := slashes_parse text
  have own : (parse .posix segment).parts = names .posix segment :=
    congrArg (fun split : Split => names .posix split.rest) (splitPosixRoot_relative relative)
  have joined : join lowercase (parse .posix text) segment = _ :=
    congrArg (parse .posix) (posixJoin_display rooted relative)
  rw [joined, drive, own]
  by_cases bare : (parse .posix text).tail = []
  · have none : (parse .posix text).parts = [] := by
      rw [← names_tail, bare]
      rfl
    rw [if_pos bare, none]
    exact parse_slashes slashes relative
  · have begun : ((parse .posix text).tail ++ '/' :: segment).head? ≠ some '/' := by
      rw [List.head?_append_of_ne_nil _ bare]
      exact (head?_tail _).1
    rw [if_neg bare]
    obtain ⟨first, second, third⟩ := parse_slashes slashes begun
    exact ⟨first, second, third.trans (names_tail_append (parse .posix text) segment)⟩

theorem parse_relative_posix (relative : segment.head? ≠ some '/') :
    (parse .posix segment).root = [] ∧ (parse .posix segment).parts = names .posix segment :=
  ⟨congrArg Split.root (splitPosixRoot_relative relative),
    congrArg (fun split : Split => names .posix split.rest) (splitPosixRoot_relative relative)⟩

/-- A path without a root has none when a segment without one is put behind it. -/
theorem join_rootless_posix (rootless : (parse .posix text).root = [])
    (relative : segment.head? ≠ some '/') :
    (join lowercase (parse .posix text) segment).root = [] := by
  obtain ⟨drive, _⟩ := slashes_parse text
  have begun : ∃ first rest, (parse .posix text).display = first :: rest ∧ first ≠ '/' := by
    by_cases empty : (parse .posix text).drive = [] ∧ (parse .posix text).root = [] ∧
        (parse .posix text).parts = []
    · exact ⟨'.', [], if_pos empty, by decide⟩
    · rw [display_of_nonempty empty, drive, rootless]
      have head := (head?_tail (parse .posix text)).1
      cases shape : (parse .posix text).tail with
      | nil =>
          refine absurd ⟨drive, rootless, ?_⟩ empty
          rw [← names_tail, shape]
          rfl
      | cons first rest =>
          rw [shape] at head
          exact ⟨first, rest, rfl, fun same => head (congrArg some same)⟩
  obtain ⟨first, rest, shape, other⟩ := begun
  have joined : (posixJoin (parse .posix text).display segment).head? ≠ some '/' := by
    rw [posixJoin, if_neg relative, shape]
    split
    · exact fun same => other (Option.some.inj same)
    · exact fun same => other (Option.some.inj same)
  exact (parse_relative_posix joined).1

end Posix

/-- A relative Windows path of which `.` and a separator lead up to a name with a colon second. -/
def Shaded (text : Text) : Prop :=
  ∃ behind name others, backslashed text = '.' :: '\\' :: behind ∧
    names .windows behind = name :: others ∧ name[1]? = some ':'

section Windows

variable {text segment : Text}

theorem slash_notMem_drive (text : Text) : '/' ∉ (parse .windows text).drive := by
  intro inside
  refine slash_notMem_backslashed text ?_
  rw [← splitWindowsRoot_whole (backslashed text)]
  exact List.mem_append_left _ (List.mem_append_left _ inside)

theorem splitRoot_eq (text : Text) : ∃ rest, splitRoot .windows (backslashed text) =
    ⟨(parse .windows text).drive, (parse .windows text).root, rest⟩ ∧
      names .windows rest = (parse .windows text).parts :=
  ⟨_, rfl, rfl⟩

/-- A Windows path in its pieces has no `/`. -/
theorem slash_notMem_pieces {rest : Text} (settled : Settled (backslashed text)
    ⟨(parse .windows text).drive, (parse .windows text).root, rest⟩) :
    '/' ∉ (parse .windows text).drive ++ (parse .windows text).root ++ (parse .windows text).tail := by
  have root : '/' ∉ (parse .windows text).root := by
    rcases settled.root_cases with none | root
    · rw [none]
      exact List.not_mem_nil
    · rw [root]
      decide
  simp only [List.mem_append, not_or]
  exact ⟨⟨slash_notMem_drive text, root⟩, slash_notMem_tail rfl⟩

/-- The second character of the names as they are printed is a colon only if that of the first
name is. -/
theorem colon_of_tail (path : PurePath) (windows : path.flavor = .windows)
    (colon : path.tail[1]? = some ':') :
    ∃ name others, path.parts = name :: others ∧ name[1]? = some ':' := by
  unfold tail at colon
  cases shape : path.parts with
  | nil =>
      rw [shape] at colon
      simp at colon
  | cons name others =>
      refine ⟨name, others, rfl, ?_⟩
      obtain ⟨isName, _⟩ := path.named name (by rw [shape]; exact List.mem_cons_self)
      obtain ⟨behind, whole, edge⟩ := intercalate_cons path.flavor.sep name others
      rw [shape, whole] at colon
      cases name with
      | nil => cases isName
      | cons letter rest =>
          cases rest with
          | nil =>
              rcases edge with rfl | ⟨more, rfl⟩
              · simp at colon
              · rw [windows] at colon
                simp [Flavor.sep] at colon
          | cons second rest => exact colon

/-- The names of a relative path begin with a name with a colon second only if `.` and a separator
lead up to it. -/
theorem shaded_of_colon (rootless : (backslashed text).head? ≠ some '\\')
    (driveless : (backslashed text)[1]? ≠ some ':') {name : Text} {others : List Text}
    (parts : names .windows (backslashed text) = name :: others) (colon : name[1]? = some ':') :
    Shaded text := by
  rcases cut_cases Flavor.windows.sep (backslashed text) with ⟨_, clean⟩ | ⟨before, behind, _, clean, whole⟩
  · rw [names, segments_clean clean, List.filter_singleton] at parts
    cases isName : isName (backslashed text) with
    | false =>
        rw [isName] at parts
        cases parts
    | true =>
        rw [isName] at parts
        exact absurd ((List.cons.inj parts).1 ▸ colon) driveless
  · cases isName : isName before with
    | true =>
        rw [names, whole, segments_append, segments_clean clean, List.filter_singleton, isName] at parts
        obtain ⟨rfl, _⟩ := List.cons.inj parts
        refine absurd ?_ driveless
        obtain ⟨within, _⟩ := List.getElem?_eq_some_iff.mp colon
        rw [whole, List.getElem?_append_left within, colon]
    | false =>
        rw [names, whole, segments_behind clean isName] at parts
        have dot : before = [] ∨ before = ['.'] := by
          simpa [Devices.isName, or_iff_not_imp_left] using isName
        rcases dot with rfl | rfl
        · exact absurd (by rw [whole]; rfl) rootless
        · exact ⟨behind, name, others, whole, parts, colon⟩

/-- What is printed of a Windows path is parsed to the path. -/
theorem parse_display_windows (text : Text) (unshaded : ¬Shaded text) :
    parse .windows (parse .windows text).display = parse .windows text := by
  obtain ⟨rest, own, parts⟩ := splitRoot_eq text
  have settled := own ▸ splitRoot_settled (backslashed text)
  by_cases empty : (parse .windows text).drive = [] ∧ (parse .windows text).root = [] ∧
      (parse .windows text).parts = []
  · rw [display, if_pos empty]
    exact parse_dot empty
  · rw [display_of_nonempty empty]
    have driveless : (parse .windows text).drive = [] → (parse .windows text).root = [] →
        (parse .windows text).tail[1]? ≠ some ':' := by
      intro drive root colon
      rw [drive, root] at settled
      obtain ⟨rfl, rootless, driveless⟩ := settled.of_relative
      obtain ⟨name, others, first, second⟩ := colon_of_tail _ rfl colon
      exact unshaded (shaded_of_colon rootless driveless (parts.trans first) second)
    have again := settled.again (head?_tail (parse .windows text)).2
      (fun none => tail_of_none (by rw [← parts, none]; rfl)) driveless
    refine parse_eq (parse .windows text) ?_ (names_tail _)
    refine (congrArg (splitRoot .windows) (backslashed_eq_self (slash_notMem_pieces settled))).trans ?_
    rw [again.splitRoot_eq, settled.windowsRoot_eq]

/-- With a drive or a root, the pieces of a Windows path are split off what is printed of it. -/
theorem splitWindowsRoot_display
    (driven : (parse .windows text).drive ≠ [] ∨ (parse .windows text).root ≠ []) :
    splitWindowsRoot (parse .windows text).display =
      ⟨(parse .windows text).drive, (parse .windows text).root, (parse .windows text).tail⟩ := by
  obtain ⟨rest, own, parts⟩ := splitRoot_eq text
  have settled := own ▸ splitRoot_settled (backslashed text)
  have again := settled.again (head?_tail (parse .windows text)).2
    (fun none => tail_of_none (by rw [← parts, none]; rfl))
    (fun drive root => absurd root (driven.resolve_left (not_not.mpr drive)))
  rw [display_of_nonempty fun empty => driven.elim (· empty.1) (· empty.2.1)]
  exact again.split_eq

theorem names_pushed (path : PurePath) (windows : path.flavor = .windows) (behind : Text) :
    names .windows (pushed path.tail ++ behind) = path.parts ++ names .windows behind := by
  have printed := names_tail path
  have appended := names_tail_append path behind
  have last := getLast?_tail path
  rw [windows] at printed appended last
  unfold pushed
  split
  · rw [List.append_assoc]
    exact appended
  · rename_i whole
    have empty : path.tail = [] := by
      by_contra some
      exact whole ⟨some, last⟩
    rw [empty] at printed ⊢
    rw [← printed, List.nil_append]
    rfl

/-- The pieces of a segment that is absolute alone. -/
theorem alone_of_absolute {path : Text} (rootless : (splitWindowsRoot path).root = [])
    (rooted : windowsRoot (splitWindowsRoot path).drive (splitWindowsRoot path).root ≠ []) :
    splitWindowsRoot path = ⟨path, [], []⟩ ∧ path.head? = some '\\' ∧
      windowsRoot path [] = ['\\'] ∧ Whole path := by
  have form := splitWindowsRoot_form path
  generalize splitWindowsRoot path = split at *
  cases form with
  | share => cases rootless
  | alone doubled few =>
      refine ⟨rfl, ?_, whole_of_windowsRoot doubled few rooted⟩
      rw [eq_of_doubled doubled]
      rfl
  | rooted => cases rootless
  | drive => cases rootless
  | bare _ proper _ => exact absurd (windowsRoot_letter proper) rooted
  | relative => exact absurd (windowsRoot_of_head (by simp)) rooted

theorem windowsJoin_rooted {path segment : Text} (driven : (splitWindowsRoot segment).drive ≠ [])
    (rooted : (splitWindowsRoot segment).root ≠ []) : windowsJoin lowercase path segment = segment := by
  rw [windowsJoin, if_pos rooted, if_neg driven]
  exact splitWindowsRoot_whole segment

theorem windowsJoin_other {path segment : Text} (driven : (splitWindowsRoot segment).drive ≠ [])
    (rootless : (splitWindowsRoot segment).root = [])
    (other : lowercase.lower (splitWindowsRoot segment).drive ≠
      lowercase.lower (splitWindowsRoot path).drive) :
    windowsJoin lowercase path segment = segment := by
  rw [windowsJoin, if_neg (not_not.mpr rootless), if_pos ⟨driven, other⟩]

/-- A segment without drive and root is put behind a path with both. -/
theorem windowsJoin_relative {path segment drive rest : Text}
    (whole : splitWindowsRoot path = ⟨drive, ['\\'], rest⟩)
    (relative : splitWindowsRoot segment = ⟨[], [], segment⟩) :
    windowsJoin lowercase path segment = drive ++ ['\\'] ++ (pushed rest ++ segment) := by
  simp [windowsJoin, whole, relative]

/-- A share or device alone, the path's own, is put in its drive's place. -/
theorem windowsJoin_alone {path segment drive root rest : Text} (driven : segment ≠ [])
    (whole : splitWindowsRoot path = ⟨drive, root, rest⟩)
    (alone : splitWindowsRoot segment = ⟨segment, [], []⟩)
    (own : lowercase.lower segment = lowercase.lower drive) (rooted : root = [] → rest = []) :
    windowsJoin lowercase path segment = segment ++ root ++ pushed rest := by
  rw [windowsJoin, whole, alone]
  simp only [ne_eq, not_true_eq_false, if_false, driven, not_false_eq_true, true_and, own, if_true]
  rw [if_neg, List.append_nil]
  rintro ⟨none, some, _⟩
  rw [rooted none] at some
  exact some rfl

/-- A share or device alone, with no separator behind it, that is the path's own up to case. -/
def OwnShare (lowercase : Lowercase) (text segment : Text) : Prop :=
  (splitWindowsRoot (backslashed segment)).root = [] ∧
    lowercase.lower (parse .windows segment).drive = lowercase.lower (parse .windows text).drive

theorem join_of_windowsJoin {joined : Text}
    (same : windowsJoin lowercase (parse .windows text).display (backslashed segment) = joined) :
    join lowercase (parse .windows text) segment = parse .windows joined :=
  congrArg (parse .windows) same

theorem parse_backslashed (text : Text) : parse .windows (backslashed text) = parse .windows text := by
  have same : normalize .windows (backslashed text) = normalize .windows text :=
    backslashed_eq_self (slash_notMem_backslashed text)
  simp only [parse, same]

theorem driven_and_rooted (absolute : (parse .windows text).isAbsolute = true) :
    (parse .windows text).drive ≠ [] ∧ (parse .windows text).root ≠ [] := by
  simpa [isAbsolute, parse] using absolute

/-- A share that is split off what is printed of a path is the path's. -/
theorem drive_of_display
    (share : (splitWindowsRoot (parse .windows text).display).drive.head? = some '\\') :
    (splitWindowsRoot (parse .windows text).display).drive = (parse .windows text).drive := by
  by_cases driven : (parse .windows text).drive ≠ [] ∨ (parse .windows text).root ≠ []
  · rw [splitWindowsRoot_display driven]
  · obtain ⟨drive, root⟩ := not_or.mp driven
    have begun : (parse .windows text).display.head? = some '\\' := by
      rw [← splitWindowsRoot_whole (parse .windows text).display]
      obtain ⟨more, begins⟩ := List.head?_eq_some_iff.mp share
      rw [begins]
      rfl
    exfalso
    by_cases empty : (parse .windows text).drive = [] ∧ (parse .windows text).root = [] ∧
        (parse .windows text).parts = []
    · rw [display, if_pos empty] at begun
      cases begun
    · rw [display_of_nonempty empty, not_not.mp drive, not_not.mp root] at begun
      exact (head?_tail (parse .windows text)).2 begun

/-- An absolute Windows segment replaces the path, unless it is the path's own share alone. -/
theorem join_absolute_windows (absolute : (parse .windows segment).isAbsolute = true)
    (other : ¬OwnShare lowercase text segment) :
    join lowercase (parse .windows text) segment = parse .windows segment := by
  obtain ⟨driven, rooted⟩ := driven_and_rooted absolute
  rw [← parse_backslashed segment]
  refine join_of_windowsJoin ?_
  by_cases rootless : (splitWindowsRoot (backslashed segment)).root = []
  · refine windowsJoin_other driven rootless fun same => other ⟨rootless, ?_⟩
    obtain ⟨alone, share, _, _⟩ := alone_of_absolute rootless rooted
    have drive : (splitWindowsRoot (backslashed segment)).drive = backslashed segment := by rw [alone]
    have printed := drive_of_display (lowercase.backslash _ _ same (by rw [drive]; exact share))
    rw [← printed]
    exact same
  · exact windowsJoin_rooted driven rootless

theorem slash_notMem_pushed (path : PurePath) (windows : path.flavor = .windows) :
    '/' ∉ pushed path.tail := by
  unfold pushed
  split
  · simp [slash_notMem_tail windows]
  · exact slash_notMem_tail windows

/-- A whole drive, its root and a path's names with a text behind them are parsed to just that. -/
theorem parse_behind {drive behind : Text} (whole : Whole drive) (clean : '/' ∉ drive)
    (path : PurePath) (windows : path.flavor = .windows) (proper : '/' ∉ behind) :
    (parse .windows (drive ++ ['\\'] ++ (pushed path.tail ++ behind))).drive = drive ∧
      (parse .windows (drive ++ ['\\'] ++ (pushed path.tail ++ behind))).root = ['\\'] ∧
      (parse .windows (drive ++ ['\\'] ++ (pushed path.tail ++ behind))).parts =
        path.parts ++ names .windows behind := by
  have unslashed : '/' ∉ drive ++ ['\\'] ++ (pushed path.tail ++ behind) := by
    simp [clean, slash_notMem_pushed path windows, proper]
  have split : splitRoot .windows (normalize .windows
      (drive ++ ['\\'] ++ (pushed path.tail ++ behind))) =
        ⟨drive, ['\\'], pushed path.tail ++ behind⟩ := by
    rw [normalize, backslashed_eq_self unslashed, List.append_assoc]
    refine (whole _).splitRoot_eq.trans ?_
    rw [windowsRoot_of_ne (List.cons_ne_nil _ _)]
    rfl
  refine ⟨congrArg Split.drive split, congrArg Split.root split, ?_⟩
  rw [← names_pushed path windows behind]
  exact congrArg (fun split : Split => names .windows split.rest) split

/-- The path's own share alone keeps the path's names, in its own spelling. -/
theorem join_own_share (absolute : (parse .windows segment).isAbsolute = true)
    (own : OwnShare lowercase text segment) :
    (join lowercase (parse .windows text) segment).drive = (parse .windows segment).drive ∧
      (join lowercase (parse .windows text) segment).root = (parse .windows segment).root ∧
      (join lowercase (parse .windows text) segment).parts = (parse .windows text).parts := by
  obtain ⟨_, rooted⟩ := driven_and_rooted absolute
  obtain ⟨rootless, same⟩ := own
  obtain ⟨alone, share, root, whole⟩ := alone_of_absolute rootless rooted
  have drive : (parse .windows segment).drive = backslashed segment := congrArg Split.drive alone
  have settled_root : (parse .windows segment).root = ['\\'] := by
    rw [← root]
    exact congrArg (fun split => windowsRoot split.drive split.root) alone
  rw [drive] at same
  have path_share := lowercase.backslash _ _ same share
  have driven : (parse .windows text).drive ≠ [] := by
    intro empty
    rw [empty] at path_share
    cases path_share
  obtain ⟨rest, text_own, parts⟩ := splitRoot_eq text
  have settled := text_own ▸ splitRoot_settled (backslashed text)
  have nothing : (parse .windows text).root = [] → (parse .windows text).parts = [] := by
    intro none
    rw [← parts, settled.of_rootless path_share none]
    rfl
  have nonempty : backslashed segment ≠ [] := by
    intro empty
    rw [empty] at share
    cases share
  rw [join_of_windowsJoin (windowsJoin_alone nonempty (splitWindowsRoot_display (.inl driven)) alone same
    fun none => tail_of_none (nothing none)), drive, settled_root]
  rcases settled.root_cases with none | path_root
  · have printed : pushed (parse .windows text).tail = [] := by
      rw [tail_of_none (nothing none)]
      rfl
    rw [none, printed, List.append_nil, List.append_nil, parse_backslashed, nothing none]
    refine ⟨drive, settled_root, ?_⟩
    exact congrArg (fun split : Split => names .windows split.rest) alone
  · have behind := parse_behind whole (slash_notMem_backslashed segment) (parse .windows text) rfl
      List.not_mem_nil
    rw [List.append_nil] at behind
    rw [path_root]
    refine ⟨behind.1, behind.2.1, behind.2.2.trans ?_⟩
    exact List.append_nil _

theorem splitWindowsRoot_relative {path : Text} (driveless : (splitWindowsRoot path).drive = [])
    (rootless : windowsRoot (splitWindowsRoot path).drive (splitWindowsRoot path).root = []) :
    splitWindowsRoot path = ⟨[], [], path⟩ := by
  have whole := splitWindowsRoot_whole path
  generalize splitWindowsRoot path = split at *
  obtain ⟨drive, root, rest⟩ := split
  simp only at driveless rootless whole
  subst driveless
  rw [windowsRoot_of_head (by simp)] at rootless
  subst rootless
  rw [← whole]
  rfl

/-- A Windows segment without drive and root is put behind an absolute path. -/
theorem join_relative_windows (absolute : (parse .windows text).isAbsolute = true)
    (driveless : (parse .windows segment).drive = []) (rootless : (parse .windows segment).root = []) :
    (join lowercase (parse .windows text) segment).drive = (parse .windows text).drive ∧
      (join lowercase (parse .windows text) segment).root = (parse .windows text).root ∧
      (join lowercase (parse .windows text) segment).parts =
        (parse .windows text).parts ++ (parse .windows segment).parts := by
  obtain ⟨driven, rooted⟩ := driven_and_rooted absolute
  obtain ⟨_, own, _⟩ := splitRoot_eq text
  obtain ⟨root, whole⟩ := (own ▸ splitRoot_settled (backslashed text)).of_absolute driven rooted
  have display := splitWindowsRoot_display (.inl driven)
  rw [root] at display
  have relative : splitWindowsRoot (backslashed segment) = ⟨[], [], backslashed segment⟩ :=
    splitWindowsRoot_relative driveless rootless
  rw [join_of_windowsJoin (windowsJoin_relative display relative), root]
  have behind := parse_behind whole (slash_notMem_drive text) (parse .windows text) rfl
    (slash_notMem_backslashed segment)
  refine ⟨behind.1, behind.2.1, behind.2.2.trans ?_⟩
  congr 1
  exact (congrArg (fun split : Split => names .windows split.rest) relative).symm

end Windows

/-- What is printed is parsed to the path, so that paths printed alike are alike; an absolute segment
replaces the path, or else is its own share alone and keeps the path's names; a segment without drive
and root is put behind an absolute path. -/
theorem printed_and_joined (lowercase : Lowercase) (flavor : Flavor) :
    (∀ text, ¬(flavor = .windows ∧ Shaded text) →
      parse flavor (parse flavor text).display = parse flavor text) ∧
    (∀ text other, ¬(flavor = .windows ∧ Shaded text) → ¬(flavor = .windows ∧ Shaded other) →
      (parse flavor text).display = (parse flavor other).display →
      parse flavor text = parse flavor other) ∧
    (∀ text segment, (parse flavor segment).isAbsolute = true →
      ¬(flavor = .windows ∧ OwnShare lowercase text segment) →
      join lowercase (parse flavor text) segment = parse flavor segment) ∧
    (∀ text segment, (parse flavor segment).isAbsolute = true →
      flavor = .windows ∧ OwnShare lowercase text segment →
      (join lowercase (parse flavor text) segment).drive = (parse flavor segment).drive ∧
        (join lowercase (parse flavor text) segment).root = (parse flavor segment).root ∧
        (join lowercase (parse flavor text) segment).parts = (parse flavor text).parts) ∧
    (∀ text segment, (parse flavor text).isAbsolute = true → (parse flavor segment).drive = [] →
      (parse flavor segment).root = [] →
      (join lowercase (parse flavor text) segment).drive = (parse flavor text).drive ∧
        (join lowercase (parse flavor text) segment).root = (parse flavor text).root ∧
        (join lowercase (parse flavor text) segment).parts =
          (parse flavor text).parts ++ (parse flavor segment).parts) := by
  have printed : ∀ text, ¬(flavor = .windows ∧ Shaded text) →
      parse flavor (parse flavor text).display = parse flavor text := by
    intro text unshaded
    cases flavor with
    | posix => exact parse_display_posix text
    | windows => exact parse_display_windows text fun shaded => unshaded ⟨rfl, shaded⟩
  refine ⟨printed, ?_, ?_, ?_, ?_⟩
  · intro text other first second same
    rw [← printed text first, same, printed other second]
  · intro text segment absolute other
    cases flavor with
    | posix => exact join_absolute_posix absolute
    | windows => exact join_absolute_windows absolute fun own => other ⟨rfl, own⟩
  · rintro text segment absolute ⟨rfl, own⟩
    exact join_own_share absolute own
  · intro text segment absolute driveless rootless
    cases flavor with
    | posix => exact join_relative_posix lowercase absolute rootless
    | windows => exact join_relative_windows absolute driveless rootless

/-- `str::to_lowercase` of ASCII text. -/
def asciiLowercase : Lowercase where
  lower text := text.map Char.toLower
  backslash text other same head := by
    obtain ⟨more, rfl⟩ := List.head?_eq_some_iff.mp head
    cases other with
    | nil => cases same
    | cons first rest =>
        have lowered : first.toLower = '\\' := (List.cons.inj same).1.symm
        rw [eq_of_toLower lowered (by decide)]
        rfl

/-- A path, its own share alone and a name, joined. -/
theorem printed_and_joined_share :
    (parse .windows "//srv/sh/a".toList).display = "\\\\srv\\sh\\a".toList ∧
    parse .windows "\\\\srv\\sh\\a".toList = parse .windows "//srv/sh/a".toList ∧
    (join asciiLowercase (parse .windows "//srv/sh/a".toList) "//SRV/sh".toList).parts = [['a']] ∧
    (join asciiLowercase (parse .windows "//srv/sh/a".toList) "b/c".toList).parts =
      [['a'], ['b'], ['c']] := by
  have algebra := printed_and_joined asciiLowercase .windows
  have unshaded : ¬(Flavor.windows = .windows ∧ Shaded "//srv/sh/a".toList) := by
    rintro ⟨_, _, _, _, dot, _⟩
    have begun : (backslashed "//srv/sh/a".toList).head? = some '.' := congrArg List.head? dot
    exact absurd begun (by decide)
  refine ⟨by decide, ?_, ?_, ?_⟩
  · exact algebra.1 "//srv/sh/a".toList unshaded
  · exact (algebra.2.2.2.1 "//srv/sh/a".toList "//SRV/sh".toList (by decide)
      ⟨rfl, by decide, by decide⟩).2.2
  · exact (algebra.2.2.2.2 "//srv/sh/a".toList "b/c".toList (by decide) (by decide) (by decide)).2.2

/-- A share alone, absolute as it is, does not replace a path on it. -/
theorem joined_share_alone :
    ¬((parse .windows "\\\\srv\\sh".toList).isAbsolute = true →
      join asciiLowercase (parse .windows "\\\\srv\\sh\\a".toList) "\\\\srv\\sh".toList =
        parse .windows "\\\\srv\\sh".toList) := by
  decide

end PurePath

end Bsrs.Devices
