import Bsrs.Library.Words

/-! Identifier substitution shared by constraints on DOFs, constraints on outcomes and scalarized
objectives: each is a template whose variables, of the caller's choosing, stand for names. -/

namespace Bsrs.Blop

open Library

def isWord (c : Char) : Bool := c.isAlphanum || c == '_'

/-- The word tokens of `template`, in order, with repeats. -/
def words (template : String) : List String :=
  ((template.toList.splitOnP fun c => !isWord c).filter fun w => !w.isEmpty).map String.ofList

def containsWord (template name : String) : Bool :=
  (words template).any fun w => w == name

/-- `flush`: the word so far is passed on, as itself or as what it stands for. -/
def flush (lookup : String → Option String) : String × String → String × String
  | (word, out) =>
      if word = "" then (word, out)
      else
        match lookup word with
        | some replacement => ("", out ++ replacement)
        | none => ("", out ++ word)

def substituteChar (lookup : String → Option String) : String × String → Char → String × String
  | (word, out), c =>
      if isWord c then (word.push c, out)
      else
        let (word, out) := flush lookup (word, out)
        (word, out.push c)

/-- `template` with every whole-word occurrence of a key replaced by `lookup(key)`. -/
def substitute (template : String) (lookup : String → Option String) : String :=
  (flush lookup (template.toList.foldl (substituteChar lookup) ("", ""))).2

/-! ## What substitution does to the words -/

/-- What a word of the template becomes. -/
def standsFor (lookup : String → Option String) (word : List Char) : List Char :=
  ((lookup (String.ofList word)).getD (String.ofList word)).toList

theorem words_eq (template : String) :
    words template = (wordsOf (pieces isWord template.toList)).map String.ofList := by
  rw [words, splitOnP_words]

variable {lookup : String → Option String} {template : String}

theorem flush_empty (out : String) : flush lookup ("", out) = ("", out) := by simp [flush]

theorem flush_word {word : String} (letters : IsWord isWord word.toList) (out : String) :
    flush lookup (word, out) = ("", out ++ String.ofList (standsFor lookup word.toList)) := by
  have some : word ≠ "" := by
    rintro rfl
    exact letters.1 String.toList_empty
  cases found : lookup word <;> simp [flush, some, standsFor, found]

/-- The loop has passed on the pieces before the word it is in. -/
theorem foldl_substituteChar (lookup : String → Option String) (text : List Char) (word out : String)
    (letters : ∀ c ∈ word.toList, isWord c = true) :
    (flush lookup (text.foldl (substituteChar lookup) (word, out))).2.toList =
      out.toList ++
        spelled ((pieces isWord (word.toList ++ text)).map (Piece.rename (standsFor lookup))) := by
  induction text generalizing word out with
  | nil =>
      rw [List.foldl_nil, List.append_nil]
      by_cases empty : word = ""
      · subst empty
        simp [flush_empty, pieces, spelled]
      · have whole : IsWord isWord word.toList := ⟨by simpa using empty, letters⟩
        rw [flush_word whole, pieces_word whole]
        simp [Piece.rename, Piece.text, spelled]
  | cons c rest ih =>
      rw [List.foldl_cons, substituteChar]
      by_cases here : isWord c = true
      · rw [if_pos here, ih]
        · simp
        · intro other member
          rw [String.toList_push] at member
          cases List.mem_append.mp member with
          | inl before => exact letters other before
          | inr last => exact List.mem_singleton.mp last ▸ here
      · have between : isWord c = false := by simpa using here
        have mark : pieces isWord (c :: rest) = .mark c :: pieces isWord rest := pieces_mark between rest
        rw [if_neg here]
        by_cases empty : word = ""
        · subst empty
          rw [flush_empty, ih _ _ (by simp), String.toList_empty, List.nil_append, List.nil_append, mark]
          simp [Piece.rename, Piece.text]
        · have whole : IsWord isWord word.toList := ⟨by simpa using empty, letters⟩
          have ends : ∀ next others, pieces isWord (c :: rest) ≠ .word next :: others := by
            rw [mark]
            intro next others same
            cases same
          rw [flush_word whole, ih _ _ (by simp), String.toList_empty, List.nil_append,
            pieces_append whole ends, mark]
          simp [Piece.rename, Piece.text]

theorem substitute_toList (template : String) (lookup : String → Option String) :
    (substitute template lookup).toList =
      spelled ((pieces isWord template.toList).map (Piece.rename (standsFor lookup))) := by
  have whole := foldl_substituteChar lookup template.toList "" "" (by simp)
  rwa [String.toList_empty, List.nil_append, List.nil_append] at whole

/-- A name that is one word. -/
def IsName (name : String) : Prop := IsWord isWord name.toList

instance (name : String) : Decidable (IsName name) :=
  inferInstanceAs (Decidable (_ ∧ _))

/-- Every replacement that the template asks for is one word. -/
def Single (template : String) (lookup : String → Option String) : Prop :=
  ∀ word ∈ words template, ∀ name, lookup word = some name → IsName name

theorem pieces_substitute (single : Single template lookup) :
    pieces isWord (substitute template lookup).toList =
      (pieces isWord template.toList).map (Piece.rename (standsFor lookup)) := by
  have proper := proper_pieces isWord template.toList
  rw [substitute_toList]
  apply pieces_spelled
  apply proper.rename
  intro letters member
  unfold standsFor
  cases found : lookup (String.ofList letters) with
  | none => simpa using proper.isWord letters member
  | some name =>
      apply single (String.ofList letters) ?_ name found
      rw [words_eq]
      exact List.mem_map_of_mem member

/-- The words of the result are the template's, each in the place of the one it stands for. -/
theorem words_substitute (single : Single template lookup) :
    words (substitute template lookup) = (words template).map fun word => (lookup word).getD word := by
  rw [words_eq, words_eq, pieces_substitute single, wordsOf_rename, List.map_map, List.map_map]
  apply List.map_congr_left
  intro letters _
  simp [standsFor]

/-- What an expression means, whatever its operators mean, where `value` is what its words stand for. -/
def meaning {V R : Type} (interpret : List (V ⊕ Char) → R) (value : String → V)
    (expression : String) : R :=
  interpret <| (pieces isWord expression.toList).map fun
    | .word letters => .inl (value (String.ofList letters))
    | .mark c => .inr c

/-- Substitution is simultaneous and preserves meaning: the result means what the template means with
each word standing for what the name in its place stands for. -/
theorem meaning_substitute {V R : Type} (interpret : List (V ⊕ Char) → R) (value : String → V)
    (single : Single template lookup) : meaning interpret value (substitute template lookup) =
      meaning interpret (fun word => value ((lookup word).getD word)) template := by
  unfold meaning
  rw [pieces_substitute single, List.map_map]
  congr 1
  apply List.map_congr_left
  intro piece _
  cases piece with
  | word letters => simp [Piece.rename, standsFor]
  | mark c => rfl

theorem containsWord_iff {name : String} : containsWord template name = true ↔ name ∈ words template := by
  simp [containsWord]

/-- Validation and substitution agree: a variable is found in a template just when putting another name
in its place changes the template. -/
theorem containsWord_iff_substitute {name other : String} (different : other ≠ name) :
    containsWord template name = true ↔
      substitute template (fun word => if word = name then some other else none) ≠ template := by
  have change : standsFor (fun word => if word = name then some other else none) =
      fun letters => if letters = name.toList then other.toList else letters := by
    funext letters
    by_cases here : letters = name.toList
    · simp [standsFor, here]
    · have apart : String.ofList letters ≠ name := by
        rintro rfl
        exact here String.toList_ofList.symm
      simp [standsFor, here, apart]
  have among : name ∈ words template ↔ name.toList ∈ wordsOf (pieces isWord template.toList) := by
    rw [words_eq, List.mem_map]
    constructor
    · rintro ⟨letters, member, rfl⟩
      rwa [String.toList_ofList]
    · exact fun member => ⟨name.toList, member, String.ofList_toList⟩
  have lists : other.toList ≠ name.toList := fun same => different (String.toList_inj.mp same)
  rw [containsWord_iff, among, ← not_iff_not, not_not, ← spelled_replace_iff lists, ← change,
    ← substitute_toList, spelled_pieces, String.toList_inj]

theorem containsWord_iff_substitute_part :
    substitute "x1 + x2 <= 10" (fun word => if word = "x" then some "motor" else none) =
      "x1 + x2 <= 10" := by
  have absent : containsWord "x1 + x2 <= 10" "x" = false := by decide +kernel
  apply Classical.byContradiction
  intro changed
  have found := (containsWord_iff_substitute (by decide)).mpr changed
  cases absent.symm.trans found

/-! ## The templates -/

/-- What realizes a DOF's value. -/
inductive DofBinding where
  | actuator (name : String)
  | external (name : String)
  | remote (device : String) (name : Option String)
deriving DecidableEq, Repr

/-- The parameter name the optimizer sees. -/
def DofBinding.parameterName : DofBinding → String
  | .actuator name | .external name => name
  | .remote device name => name.getD device

structure Dof where
  binding : DofBinding
deriving DecidableEq, Repr

def Dof.parameterName (dof : Dof) : String := dof.binding.parameterName

/-- The variables that are no words of the template. -/
def missing {β : Type} (template : String) (mapped : List (String × β)) : List (String × β) :=
  mapped.filter fun (k, _) => !containsWord template k

/-- The name that a variable is first mapped to. -/
def mappedTo (mapped : List (String × String)) (word : String) : Option String :=
  (mapped.find? fun (k, _) => k == word).map Prod.snd

/-- What the three kinds of template check before they are made. -/
def checked {β γ : Type} (template : String) (mapped : List (String × β)) (none : String)
    (unmatched : List (String × β) → String) (made : γ) : Except String γ :=
  if mapped.isEmpty then .error none
  else
    let missing := missing template mapped
    if missing.isEmpty then .ok made else .error (unmatched missing)

structure DofConstraint where
  constraint : String
  dofs : List (String × Dof)
deriving DecidableEq, Repr

def DofConstraint.new (constraint : String) (dofs : List (String × Dof)) : Except String DofConstraint :=
  checked constraint dofs
    ("DofConstraint requires at least one DOF to be specified. Map template " ++
      "variables to DOFs: DofConstraint::new(\"x + y <= 12\", [(\"x\", dof_x), " ++
      "(\"y\", dof_y)]). The variable names (x, y) are your choice and make the " ++
      "constraint readable.")
    (fun missing =>
      "The following DOFs did not have matching names in the constraint '" ++ constraint ++ "': " ++
        String.intercalate ", " (missing.map fun (k, d) => k ++ "=" ++ d.parameterName))
    ⟨constraint, dofs⟩

def DofConstraint.mapped (constraint : DofConstraint) : List (String × String) :=
  constraint.dofs.map fun (k, d) => (k, d.parameterName)

def DofConstraint.expression (constraint : DofConstraint) : String :=
  substitute constraint.constraint (mappedTo constraint.mapped)

section

-- How a list of names is printed, with its brackets and quotes.
variable (debug : List String → String)

structure ScalarizedObjective where
  expression : String
  minimize : Bool
  objectives : List (String × String)
deriving DecidableEq, Repr

def ScalarizedObjective.new (expression : String) (minimize : Bool) (objectives : List (String × String)) :
    Except String ScalarizedObjective :=
  checked expression objectives "ScalarizedObjective requires at least one objective."
    (fun missing =>
      "Objectives " ++ debug (missing.map Prod.fst) ++ " not found in expression '" ++ expression ++ "'.")
    ⟨expression, minimize, objectives⟩

/-- The optimizer expression, the whole negated when minimizing. -/
def ScalarizedObjective.rendered (objective : ScalarizedObjective) : String :=
  let body := substitute objective.expression (mappedTo objective.objectives)
  if objective.minimize then "-(" ++ body ++ ")" else body

structure OutcomeConstraint where
  constraint : String
  outcomes : List (String × String)
deriving DecidableEq, Repr

def OutcomeConstraint.new (constraint : String) (outcomes : List (String × String)) :
    Except String OutcomeConstraint :=
  checked constraint outcomes "OutcomeConstraint requires at least one outcome."
    (fun missing =>
      "Outcomes " ++ debug (missing.map Prod.fst) ++ " not found in constraint '" ++ constraint ++ "'.")
    ⟨constraint, outcomes⟩

def OutcomeConstraint.expression (constraint : OutcomeConstraint) : String :=
  substitute constraint.constraint (mappedTo constraint.outcomes)

end

/-! ## What the optimizer is told -/

theorem missing_eq_nil {β : Type} {mapped : List (String × β)} :
    missing template mapped = [] ↔ ∀ pair ∈ mapped, containsWord template pair.1 = true := by
  simp [missing, List.filter_eq_nil_iff]

theorem mappedTo_mem {mapped : List (String × String)} {word name : String}
    (found : mappedTo mapped word = some name) : (word, name) ∈ mapped := by
  obtain ⟨⟨k, other⟩, first, rfl⟩ := Option.map_eq_some_iff.mp found
  obtain rfl : k = word := by simpa using List.find?_some first
  exact List.mem_of_find?_eq_some first

theorem mappedTo_some {mapped : List (String × String)} {pair : String × String}
    (member : pair ∈ mapped) : ∃ name, mappedTo mapped pair.1 = some name := by
  cases found : mapped.find? fun (k, _) => k == pair.1 with
  | none =>
      have absent := List.find?_eq_none.mp found pair member
      simp at absent
  | some first => exact ⟨first.2, by simp [mappedTo, found]⟩

/-- A template whose every variable has been found, rendered with names that are words: it means what
the template means with every variable standing for its name, and each variable's name is in it. -/
theorem mapped_means {mapped : List (String × String)}
    (found : ∀ pair ∈ mapped, containsWord template pair.1 = true)
    (single : ∀ pair ∈ mapped, IsName pair.2) :
    (∀ {V R : Type} (interpret : List (V ⊕ Char) → R) (value : String → V),
      meaning interpret value (substitute template (mappedTo mapped)) =
        meaning interpret (fun word => value ((mappedTo mapped word).getD word)) template) ∧
      ∀ pair ∈ mapped, ∃ name, mappedTo mapped pair.1 = some name ∧
        name ∈ words (substitute template (mappedTo mapped)) := by
  have names : Single template (mappedTo mapped) := fun _ _ _ chosen => single _ (mappedTo_mem chosen)
  constructor
  · exact fun interpret value => meaning_substitute interpret value names
  · intro pair member
    obtain ⟨name, chosen⟩ := mappedTo_some member
    refine ⟨name, chosen, ?_⟩
    rw [words_substitute names]
    apply List.mem_map.mpr
    exact ⟨pair.1, containsWord_iff.mp (found pair member), by rw [chosen]; rfl⟩

/-- A template is made just when it has variables and every one of them is a word of it. -/
theorem checked_ok {β γ : Type} {mapped : List (String × β)} {none : String}
    {unmatched : List (String × β) → String} {made result : γ} :
    checked template mapped none unmatched made = .ok result ↔
      mapped ≠ [] ∧ (∀ pair ∈ mapped, containsWord template pair.1 = true) ∧ made = result := by
  rw [← missing_eq_nil]
  unfold checked
  cases mapped with
  | nil => simp
  | cons first others =>
      by_cases found : missing template (first :: others) = []
      · simp [found]
      · simp [found]

/-- An accepted constraint on DOFs, as the optimizer is given it: whatever its operators mean, it says
of the DOFs' parameters what the template says of the variables, also where one variable's parameter
has the name of another variable; and every DOF's variable has been replaced by a parameter. -/
theorem DofConstraint.expression_means {constraint : String} {dofs : List (String × Dof)}
    {made : DofConstraint} (accepted : DofConstraint.new constraint dofs = .ok made)
    (single : ∀ pair ∈ dofs, IsName pair.2.parameterName) :
    (∀ {V R : Type} (interpret : List (V ⊕ Char) → R) (value : String → V),
      meaning interpret value made.expression =
        meaning interpret (fun word => value ((mappedTo made.mapped word).getD word)) constraint) ∧
      ∀ pair ∈ dofs, ∃ name, mappedTo made.mapped pair.1 = some name ∧
        name ∈ words made.expression := by
  obtain ⟨_, found, rfl⟩ := checked_ok.mp accepted
  have each : ∀ pair ∈ DofConstraint.mapped ⟨constraint, dofs⟩,
      containsWord constraint pair.1 = true ∧ IsName pair.2 := by
    intro pair member
    obtain ⟨whole, among, rfl⟩ := List.mem_map.mp member
    exact ⟨found whole among, single whole among⟩
  obtain ⟨means, names⟩ := mapped_means (fun pair member => (each pair member).1)
    fun pair member => (each pair member).2
  refine ⟨means, ?_⟩
  intro pair member
  exact names (pair.1, pair.2.parameterName) (List.mem_map_of_mem member)

theorem DofConstraint.expression_means_swapped :
    ∃ made : DofConstraint,
      DofConstraint.new "x <= 2*y" [("x", ⟨.external "y"⟩), ("y", ⟨.external "x"⟩)] = .ok made ∧
      ∀ interpret : List (Int ⊕ Char) → Bool, ∀ value : String → Int,
        meaning interpret value made.expression =
          meaning interpret (fun word => value ((mappedTo made.mapped word).getD word)) "x <= 2*y" := by
  have accepted : DofConstraint.new "x <= 2*y" [("x", ⟨.external "y"⟩), ("y", ⟨.external "x"⟩)] =
      .ok ⟨"x <= 2*y", [("x", ⟨.external "y"⟩), ("y", ⟨.external "x"⟩)]⟩ := by decide +kernel
  have single : ∀ pair ∈ [("x", (⟨.external "y"⟩ : Dof)), ("y", ⟨.external "x"⟩)],
      IsName pair.2.parameterName := by
    simp [IsName, IsWord, isWord, Dof.parameterName, DofBinding.parameterName]
  refine ⟨_, accepted, fun interpret value => ?_⟩
  exact (DofConstraint.expression_means accepted single).1 interpret value

theorem OutcomeConstraint.rendered_means {debug : List String → String} {constraint : String}
    {outcomes : List (String × String)} {made : OutcomeConstraint}
    (accepted : OutcomeConstraint.new debug constraint outcomes = .ok made)
    (single : ∀ pair ∈ outcomes, IsName pair.2) {V R : Type} (interpret : List (V ⊕ Char) → R)
    (value : String → V) : meaning interpret value made.expression =
      meaning interpret (fun word => value ((mappedTo outcomes word).getD word)) constraint := by
  obtain ⟨_, found, rfl⟩ := checked_ok.mp accepted
  exact (mapped_means found single).1 interpret value

/-- A minimized combination is the negation of the whole of it. -/
theorem ScalarizedObjective.rendered_means {debug : List String → String} {expression : String}
    {minimize : Bool} {objectives : List (String × String)} {made : ScalarizedObjective}
    (accepted : ScalarizedObjective.new debug expression minimize objectives = .ok made)
    (single : ∀ pair ∈ objectives, IsName pair.2) {V R : Type} (interpret : List (V ⊕ Char) → R)
    (value : String → V) : meaning interpret value made.rendered =
      meaning (fun body => interpret
          (if minimize then .inr '-' :: .inr '(' :: body ++ [.inr ')'] else body))
        (fun word => value ((mappedTo objectives word).getD word)) expression := by
  obtain ⟨_, found, rfl⟩ := checked_ok.mp accepted
  rw [← (mapped_means found single).1]
  cases minimize with
  | false => rfl
  | true =>
      have shape (body : String) : pieces isWord ("-(" ++ body ++ ")").toList =
          .mark '-' :: .mark '(' :: pieces isWord body.toList ++ [.mark ')'] := by
        have spelt : ("-(" ++ body ++ ")").toList = '-' :: '(' :: (body.toList ++ [')']) := by simp
        rw [spelt, pieces_mark rfl, pieces_mark rfl, pieces_concat _ rfl]
        rfl
      change meaning interpret value ("-(" ++ _ ++ ")") = _
      unfold meaning
      rw [shape]
      simp

end Bsrs.Blop
