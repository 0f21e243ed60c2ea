/-!
# Regular expressions

An expression is matched with backtracking: its matches at a place of a text have an order of
preference, and a search takes the first one at the leftmost place that has any. The first match
with an answer is computed by recursion on the expression, so a pattern can be evaluated from its
parts.
-/

namespace ModLint

/-- A regular expression. Only single characters are repeated. -/
inductive Regex where
  | empty
  | one (accepts : Char → Bool)
  | many (greedy : Bool) (accepts : Char → Bool)
  | seq (left right : Regex)
  | alt (left right : Regex)
  | group (number : Nat) (inner : Regex)

namespace Regex

/-- What an expression takes from the start of a text, what it leaves, and what its groups took. -/
structure Match where
  taken : List Char
  rest : List Char
  groups : List (Nat × List Char)

/-- One match followed by another one. -/
def Match.join (m n : Match) : Match :=
  ⟨m.taken ++ n.taken, n.rest, m.groups ++ n.groups⟩

/-- What a group took. -/
def Match.group? (m : Match) (number : Nat) : Option (List Char) :=
  m.groups.lookup number

/-- The ways to take characters of a class, the longest first or the shortest first. -/
def takes (greedy : Bool) (accepts : Char → Bool) : List Char → List Match
  | [] => [⟨[], [], []⟩]
  | c :: text =>
    if accepts c then
      let more := (takes greedy accepts text).map (Match.join ⟨[c], text, []⟩)
      if greedy then more ++ [⟨[], c :: text, []⟩] else ⟨[], c :: text, []⟩ :: more
    else [⟨[], c :: text, []⟩]

/-- The matches at the start of a text, in the order of preference. -/
def runs : Regex → List Char → List Match
  | empty, text => [⟨[], text, []⟩]
  | one _, [] => []
  | one accepts, c :: text => if accepts c then [⟨[c], text, []⟩] else []
  | many greedy accepts, text => takes greedy accepts text
  | seq left right, text => (left.runs text).flatMap fun m => (right.runs m.rest).map m.join
  | alt left right, text => left.runs text ++ right.runs text
  | group number inner, text =>
    (inner.runs text).map fun m => { m with groups := (number, m.taken) :: m.groups }

/-- The leftmost match in a text, with the text in front of it. -/
def find? (r : Regex) : List Char → Option (List Char × Match)
  | [] => (r.runs []).head?.map (Prod.mk [])
  | c :: text =>
    match (r.runs (c :: text)).head? with
    | some m => some ([], m)
    | none => (r.find? text).map fun found => (c :: found.1, found.2)

/-- A fixed text. -/
def lit : List Char → Regex
  | [] => empty
  | c :: text => seq (one (· == c)) (lit text)

/-- Expressions one after the other. -/
def seqs : List Regex → Regex
  | [] => empty
  | r :: rest => seq r (seqs rest)

/-- An expression or nothing. -/
def optional (r : Regex) : Regex :=
  alt r empty

/-! ## First matches -/

/-- The first answer among those to the matches of an expression. -/
def first {α : Type} (r : Regex) (answer : Match → Option α) (text : List Char) : Option α :=
  (r.runs text).findSome? answer

section First

variable {α : Type} {answer : Match → Option α} {text : List Char} {accepts : Char → Bool}

theorem first_some (r : Regex) (f : Match → α) :
    r.first (fun m => some (f m)) text = (r.runs text).head?.map f := by
  rw [first]
  cases r.runs text <;> rfl

theorem first_empty : empty.first answer text = answer ⟨[], text, []⟩ := by
  show [(⟨[], text, []⟩ : Match)].findSome? answer = _
  rw [List.findSome?_singleton]

theorem first_one_cons (c : Char) :
    (one accepts).first answer (c :: text) =
      if accepts c then answer ⟨[c], text, []⟩ else none := by
  show (if accepts c then [(⟨[c], text, []⟩ : Match)] else []).findSome? answer = _
  split
  · rw [List.findSome?_singleton]
  · rfl

theorem first_seq (left right : Regex) :
    (seq left right).first answer text =
      left.first (fun m => right.first (fun n => answer (m.join n)) m.rest) text := by
  have hflat : ∀ list : List Match,
      (list.flatMap fun m => (right.runs m.rest).map m.join).findSome? answer =
        list.findSome? fun m => right.first (fun n => answer (m.join n)) m.rest := by
    intro list
    induction list with
    | nil => rfl
    | cons m list ih =>
      rw [List.flatMap_cons, List.findSome?_append, ih, List.findSome?_map, List.findSome?_cons]
      change ((right.runs m.rest).findSome? fun n => answer (m.join n)).or _ = _
      rw [first]
      cases (right.runs m.rest).findSome? fun n => answer (m.join n) <;> rfl
  exact hflat (left.runs text)

theorem first_alt (left right : Regex) :
    (alt left right).first answer text = (left.first answer text).or (right.first answer text) := by
  show (left.runs text ++ right.runs text).findSome? answer = _
  rw [List.findSome?_append]
  rfl

theorem first_group (number : Nat) (inner : Regex) :
    (group number inner).first answer text = inner.first
      (fun m => answer { m with groups := (number, m.taken) :: m.groups }) text := by
  show ((inner.runs text).map fun m =>
    { m with groups := (number, m.taken) :: m.groups }).findSome? answer = _
  rw [List.findSome?_map]
  rfl

theorem mem_takes {greedy : Bool} {m : Match} (h : m ∈ takes greedy accepts text) :
    m.taken ++ m.rest = text ∧ m.groups = [] := by
  induction text generalizing m with
  | nil =>
    rw [takes, List.mem_singleton] at h
    rw [h]
    exact ⟨rfl, rfl⟩
  | cons c text ih =>
    have hcases : m = ⟨[], c :: text, []⟩ ∨
        ∃ n ∈ takes greedy accepts text, Match.join ⟨[c], text, []⟩ n = m := by
      rw [takes] at h
      split at h
      · cases greedy
        · exact (List.mem_cons.mp h).imp_right List.mem_map.mp
        · exact (List.mem_append.mp h).symm.imp List.mem_singleton.mp List.mem_map.mp
      · exact Or.inl (List.mem_singleton.mp h)
    rcases hcases with rfl | ⟨n, hn, rfl⟩
    · exact ⟨rfl, rfl⟩
    · exact ⟨congrArg (c :: ·) (ih hn).1, (ih hn).2⟩

/-- A match splits the text. -/
theorem taken_append_rest {r : Regex} {m : Match} (h : m ∈ r.runs text) :
    m.taken ++ m.rest = text := by
  induction r generalizing text m with
  | empty =>
    rw [List.mem_singleton.mp h]
    rfl
  | one accepts =>
    cases text with
    | nil => cases h
    | cons c text =>
      change m ∈ if accepts c then [(⟨[c], text, []⟩ : Match)] else [] at h
      split at h
      · rw [List.mem_singleton.mp h]
        rfl
      · cases h
  | many greedy accepts => exact (mem_takes h).1
  | seq left right ihleft ihright =>
    obtain ⟨m₁, h₁, h⟩ := List.mem_flatMap.mp h
    obtain ⟨m₂, h₂, rfl⟩ := List.mem_map.mp h
    change m₁.taken ++ m₂.taken ++ m₂.rest = text
    rw [List.append_assoc, ihright h₂, ihleft h₁]
  | alt left right ihleft ihright =>
    rcases List.mem_append.mp h with h | h
    · exact ihleft h
    · exact ihright h
  | group number inner ih =>
    obtain ⟨n, hn, rfl⟩ := List.mem_map.mp h
    change n.taken ++ n.rest = text
    exact ih hn

theorem first_congr {r : Regex} {answer' : Match → Option α}
    (h : ∀ m ∈ r.runs text, answer m = answer' m) : r.first answer text = r.first answer' text := by
  rw [first, first]
  generalize r.runs text = list at h ⊢
  induction list with
  | nil => rfl
  | cons m list ih =>
    rw [List.findSome?_cons, List.findSome?_cons, h m List.mem_cons_self,
      ih fun n hn => h n (List.mem_cons_of_mem m hn)]

theorem first_many (greedy : Bool) :
    (many greedy accepts).first answer text =
      (many greedy accepts).first (fun m => answer ⟨m.taken, m.rest, []⟩) text := by
  refine first_congr fun m hm => ?_
  rw [← (mem_takes hm).2]

/-- A repetition that takes as much as possible gives only the longest match if a shorter one is of
no use where that one is of none. -/
theorem first_greedy (h : ∀ taken c rest, taken ++ c :: rest = text → accepts c = true →
      answer ⟨taken ++ c :: rest.takeWhile accepts, rest.dropWhile accepts, []⟩ = none →
      answer ⟨taken, c :: rest, []⟩ = none) :
    (many true accepts).first answer text =
      answer ⟨text.takeWhile accepts, text.dropWhile accepts, []⟩ := by
  show (takes true accepts text).findSome? answer = _
  induction text generalizing answer with
  | nil =>
    rw [takes, List.findSome?_singleton]
    rfl
  | cons c text ih =>
    rw [takes]
    by_cases hc : accepts c = true
    · have hlonger : (takes true accepts text).findSome? (answer ∘ Match.join ⟨[c], text, []⟩) =
          answer ⟨c :: text.takeWhile accepts, text.dropWhile accepts, []⟩ := by
        refine ih fun taken d rest htext hd => h (c :: taken) d rest ?_ hd
        rw [List.cons_append, htext]
      rw [if_pos hc, if_pos rfl, List.findSome?_append, List.findSome?_map, hlonger,
        List.findSome?_singleton, List.takeWhile_cons_of_pos hc, List.dropWhile_cons_of_pos hc]
      cases hlongest : answer ⟨c :: text.takeWhile accepts, text.dropWhile accepts, []⟩ with
      | some a => rfl
      | none => exact h [] c text rfl hc hlongest
    · rw [if_neg hc, List.findSome?_singleton, List.takeWhile_cons_of_neg hc,
        List.dropWhile_cons_of_neg hc]

theorem first_lazy_nil : (many false accepts).first answer [] = answer ⟨[], [], []⟩ := by
  show [(⟨[], [], []⟩ : Match)].findSome? answer = _
  rw [List.findSome?_singleton]

theorem first_lazy_cons (c : Char) :
    (many false accepts).first answer (c :: text) = (answer ⟨[], c :: text, []⟩).or
      (if accepts c then
        (many false accepts).first (fun m => answer (Match.join ⟨[c], text, []⟩ m)) text
      else none) := by
  show (takes false accepts (c :: text)).findSome? answer = _
  rw [takes]
  by_cases hc : accepts c = true
  · rw [if_pos hc, if_pos hc, if_neg (by decide), List.findSome?_cons, List.findSome?_map]
    cases answer ⟨[], c :: text, []⟩ <;> rfl
  · rw [if_neg hc, if_neg hc, List.findSome?_singleton, Option.or_none]

theorem first_seqs_nil : (seqs []).first answer text = answer ⟨[], text, []⟩ := first_empty

theorem first_seqs_cons (r : Regex) (rest : List Regex) :
    (seqs (r :: rest)).first answer text =
      r.first (fun m => (seqs rest).first (fun n => answer (m.join n)) m.rest) text :=
  first_seq r (seqs rest)

theorem first_seqs_append (left right : List Regex) :
    (seqs (left ++ right)).first answer text =
      (seqs left).first (fun m => (seqs right).first (fun n => answer (m.join n)) m.rest) text := by
  have hassoc : ∀ m n k : Match, m.join (n.join k) = (m.join n).join k := by
    intro m n k
    simp [Match.join]
  induction left generalizing answer text with
  | nil =>
    rw [first_seqs_nil]
    rfl
  | cons r left ih =>
    rw [List.cons_append, first_seqs_cons, first_seqs_cons]
    refine first_congr fun m _ => ?_
    rw [ih]
    simp only [hassoc]
    rfl

end First

end Regex

end ModLint
