import FilterSql.Proofs.Formula
import FilterSql.Proofs.Sql.Lexeme

/-!
# `FilterSql.Proofs.Sql.Reading`: the boolean structure of a condition

How a database reads a condition, as far as its connectives go.
Parentheses group first. What is between them is cut at `OR`, the
pieces at `AND`, and what then stands between blanks is a leaf, unless
it is a group by itself: then it is what the group holds. The `AND`
that belongs to a `BETWEEN` is not a connective. Nothing else about
leaves is looked at, so a function with its arguments, or a list, is
part of the leaf that it stands in.

* `Sql.conjuncts`: the pieces between connectives `AND`.
* `Sql.condition`: the formula of a list of items.
* `Sql.grouped`: lexemes to items, with a stack of open groups.
* `Sql.read`: the formula of a text.
* `Sql.condition_joined`: groups with a connective between them are
  read as this connective of what they hold.
* `Sql.condition_of_whole`: items that no connective cuts are a leaf.
-/

set_option autoImplicit false

namespace FilterSql.Sql

/-- What a condition is made of once its parentheses are matched. -/
inductive Item where
  | lexeme (l : Lexeme)
  /-- A group, with the text between its parentheses and the formula
  that the text is read as. -/
  | group (inside : List Char) (formula : Option (Formula String))

namespace Item

/-- How an item is written. -/
def source : Item → List Char
  | lexeme l => l.source
  | group inside _ => '(' :: inside ++ [')']

/-- Whether an item is this word, in capitals or small letters. -/
def isWord (text : String) : Item → Bool
  | lexeme (.word cs) => cs.map Char.toUpper = text.toList
  | _ => false

def isBlank : Item → Bool
  | lexeme (.mark c) => c.isWhitespace
  | _ => false

end Item

/-! ### The reader -/

/-- The pieces between connectives `AND`. After a `BETWEEN` the next
`AND` is no connective but ends its lower bound. -/
def conjuncts (pending : Bool) : List Item → List (List Item)
  | [] => [[]]
  | i :: is =>
    if i.isWord "BETWEEN" then (conjuncts true is).modifyHead (i :: ·)
    else if i.isWord "AND" then
      if pending then (conjuncts false is).modifyHead (i :: ·)
      else [] :: conjuncts false is
    else (conjuncts pending is).modifyHead (i :: ·)

/-- Items without the blanks around them. -/
def trimmed (is : List Item) : List Item :=
  ((is.dropWhile Item.isBlank).reverse.dropWhile Item.isBlank).reverse

/-- The formula of items without connectives. There must be some. -/
def operand (is : List Item) : Option (Formula String) :=
  match trimmed is with
  | [] => none
  | [.group _ formula] => formula
  | is => some (.leaf (String.ofList (is.flatMap Item.source)))

/-- The formula of items without `OR`. -/
def conjunction (is : List Item) : Option (Formula String) :=
  ((conjuncts false is).mapM operand).map (Formula.join .and)

/-- The formula of items. `AND` binds tighter than `OR`. -/
def condition (is : List Item) : Option (Formula String) :=
  ((is.splitOnP (Item.isWord "OR")).mapM conjunction).map (Formula.join .or)

/-- Items between parentheses. -/
def closed (is : List Item) : Item :=
  .group (is.flatMap Item.source) (condition is)

/-- Matches the parentheses of lexemes. `read` are the items of the
innermost open group so far, and `outer` those of the groups around
it. -/
def grouped (outer : List (List Item)) (read : List Item) :
    List Lexeme → Option (List Item)
  | [] => if outer.isEmpty then some read else none
  | l :: ls =>
    if l = .mark '(' then grouped (read :: outer) [] ls
    else if l = .mark ')' then
      match outer with
      | [] => none
      | before :: outer => grouped outer (before ++ [closed read]) ls
    else grouped outer (read ++ [.lexeme l]) ls

/-- A parenthesis opens a group. -/
theorem grouped_open (outer : List (List Item)) (read : List Item) (ls : List Lexeme) :
    grouped outer read (.mark '(' :: ls) = grouped (read :: outer) [] ls := by
  cases outer <;> simp [grouped]

/-- And one closes it. -/
theorem grouped_close (before : List Item) (outer : List (List Item)) (read : List Item)
    (ls : List Lexeme) :
    grouped (before :: outer) read (.mark ')' :: ls)
      = grouped outer (before ++ [closed read]) ls := by
  simp [grouped]

/-- There is nothing to close outside all groups. -/
theorem grouped_close_nil (read : List Item) (ls : List Lexeme) :
    grouped [] read (.mark ')' :: ls) = none := by
  simp [grouped]

/-- Any other lexeme is an item of its group. -/
theorem grouped_lexeme (outer : List (List Item)) (read : List Item) {l : Lexeme}
    (hopen : l ≠ .mark '(') (hclose : l ≠ .mark ')') (ls : List Lexeme) :
    grouped outer read (l :: ls) = grouped outer (read ++ [.lexeme l]) ls := by
  cases outer <;> simp [grouped, hopen, hclose]

/-- The formula of a text; `none` if a quotation or a parenthesis is
left open, or if a connective lacks a side. -/
def read (text : String) : Option (Formula String) := do
  let ls ← lexemes text.toList
  let is ← grouped [] [] ls
  condition is

/-! ### Cutting -/

/-- An item that is neither a connective nor a `BETWEEN`. -/
structure Item.Plain (i : Item) : Prop where
  and : i.isWord "AND" = false
  or : i.isWord "OR" = false
  between : i.isWord "BETWEEN" = false

/-- Marks are no connectives. -/
theorem Item.plain_mark (c : Char) : Item.Plain (.lexeme (.mark c)) :=
  ⟨rfl, rfl, rfl⟩

/-- Nor are quotations. -/
theorem Item.plain_quoted (quote : Char) (body : List Char) :
    Item.Plain (.lexeme (.quoted quote body)) :=
  ⟨rfl, rfl, rfl⟩

/-- Nor is what stands in parentheses. -/
theorem Item.plain_closed (is : List Item) : Item.Plain (closed is) :=
  ⟨rfl, rfl, rfl⟩

/-- Plain items stay with what follows them. -/
theorem conjuncts_append {is : List Item} (h : ∀ i ∈ is, i.Plain) (pending : Bool)
    (rest : List Item) :
    conjuncts pending (is ++ rest) = (conjuncts pending rest).modifyHead (is ++ ·) := by
  induction is with
  | nil =>
      show conjuncts pending rest = (conjuncts pending rest).modifyHead id
      rw [List.modifyHead_id]
      rfl
  | cons i is ih =>
      rw [List.forall_mem_cons] at h
      -- A plain item falls through both tests, so `pending` stays as it is.
      rw [List.cons_append, conjuncts, if_neg (by simp [h.1.between]),
        if_neg (by simp [h.1.and]), ih h.2, List.modifyHead_modifyHead]
      rfl

/-- Plain items are one piece. -/
theorem conjuncts_of_plain {is : List Item} (h : ∀ i ∈ is, i.Plain) (pending : Bool) :
    conjuncts pending is = [is] := by
  have hcut := conjuncts_append h pending []
  rwa [List.append_nil, conjuncts, List.modifyHead_cons, List.append_nil] at hcut

/-- A connective `AND` ends a piece. -/
theorem conjuncts_append_and {is : List Item} (h : ∀ i ∈ is, i.Plain)
    (rest : List Item) :
    conjuncts false (is ++ .lexeme (.word "AND".toList) :: rest)
      = is :: conjuncts false rest := by
  have hand : conjuncts false (.lexeme (.word "AND".toList) :: rest)
      = [] :: conjuncts false rest := rfl
  rw [conjuncts_append h, hand, List.modifyHead_cons, List.append_nil]

/-- The `AND` of a `BETWEEN` ends none. -/
theorem conjuncts_between {is low high : List Item} (h : ∀ i ∈ is, i.Plain)
    (hlow : ∀ i ∈ low, i.Plain) (hhigh : ∀ i ∈ high, i.Plain) :
    conjuncts false (is ++ .lexeme (.word "BETWEEN".toList) ::
        (low ++ .lexeme (.word "AND".toList) :: high))
      = [is ++ .lexeme (.word "BETWEEN".toList) ::
          (low ++ .lexeme (.word "AND".toList) :: high)] := by
  have hbetween : ∀ rest, conjuncts false (.lexeme (.word "BETWEEN".toList) :: rest)
      = (conjuncts true rest).modifyHead (.lexeme (.word "BETWEEN".toList) :: ·) :=
    fun _ => rfl
  have hand : ∀ rest, conjuncts true (.lexeme (.word "AND".toList) :: rest)
      = (conjuncts false rest).modifyHead (.lexeme (.word "AND".toList) :: ·) :=
    fun _ => rfl
  rw [conjuncts_append h, hbetween, conjuncts_append hlow, hand, conjuncts_of_plain hhigh]
  rfl

/-- Items with no blank at either end. -/
structure Tight (is : List Item) : Prop where
  first : ∃ i rest, is = i :: rest ∧ i.isBlank = false
  last : ∃ rest i, is = rest ++ [i] ∧ i.isBlank = false

/-- Blanks around items are dropped, and nothing else. -/
theorem trimmed_append {is : List Item} (h : Tight is) (before after : List Item)
    (hbefore : ∀ i ∈ before, i.isBlank = true) (hafter : ∀ i ∈ after, i.isBlank = true) :
    trimmed (before ++ is ++ after) = is := by
  -- From the front the blanks `before` go, and the first item stops it.
  have hfront : (before ++ is ++ after).dropWhile Item.isBlank = is ++ after := by
    obtain ⟨i, rest, rfl, hi⟩ := h.first
    rw [List.append_assoc, List.dropWhile_append_of_pos hbefore, List.cons_append,
      List.dropWhile_cons_of_neg (by simp [hi])]
  -- From the back the same with `after` and the last item.
  have hback : (is ++ after).reverse.dropWhile Item.isBlank = is.reverse := by
    obtain ⟨rest, i, rfl, hi⟩ := h.last
    have hafter' : ∀ j ∈ after.reverse, j.isBlank = true := by
      intro j hj
      exact hafter j (List.mem_reverse.mp hj)
    rw [List.reverse_append, List.dropWhile_append_of_pos hafter', List.reverse_append,
      List.reverse_singleton, List.singleton_append,
      List.dropWhile_cons_of_neg (by simp [hi])]
  rw [trimmed, hfront, hback, List.reverse_reverse]

/-! ### Leaves -/

/-- Items that no connective cuts, and that are not just a group, are
a leaf with the text that they are written as. -/
theorem condition_of_whole {is : List Item} (hor : ∀ i ∈ is, i.isWord "OR" = false)
    (hwhole : conjuncts false is = [is]) (htight : Tight is)
    (hlexeme : ∃ l, Item.lexeme l ∈ is) :
    condition is = some (.leaf (String.ofList (is.flatMap Item.source))) := by
  have htrim : trimmed is = is := by
    have h := trimmed_append htight [] [] (by simp) (by simp)
    rwa [List.nil_append, List.append_nil] at h
  have hoperand : operand is = some (.leaf (String.ofList (is.flatMap Item.source))) := by
    unfold operand
    rw [htrim]
    -- No items, one group, and anything else: only the last is left.
    split
    · obtain ⟨i, rest, hcons, -⟩ := htight.first
      cases hcons
    · obtain ⟨l, hl⟩ := hlexeme
      cases List.mem_singleton.mp hl
    · rfl
  have hconjunction : conjunction is
      = some (.leaf (String.ofList (is.flatMap Item.source))) := by
    rw [conjunction, hwhole, List.mapM_cons, List.mapM_nil, hoperand]
    rfl
  rw [condition, List.splitOnP_eq_singleton hor, List.mapM_cons, List.mapM_nil,
    hconjunction]
  rfl

/-! ### Groups with a connective between them -/

/-- The word of a connective between blanks. -/
def connectiveItems (op : Connective) : List Item :=
  [.lexeme (.mark ' '), .lexeme (.word op.keyword.toList), .lexeme (.mark ' ')]

/-- Groups with a connective between them. -/
def joinedItems (op : Connective) : List (List Item) → List Item
  | [] => []
  | [is] => [closed is]
  | is :: iss => closed is :: (connectiveItems op ++ joinedItems op iss)

/-- A group between blanks is what it holds. -/
theorem operand_closed (before is after : List Item)
    (hbefore : ∀ i ∈ before, i.isBlank = true) (hafter : ∀ i ∈ after, i.isBlank = true) :
    operand (before ++ [closed is] ++ after) = condition is := by
  have htight : Tight [closed is] := ⟨⟨_, [], rfl, rfl⟩, ⟨[], _, rfl, rfl⟩⟩
  rw [operand, trimmed_append htight before after hbefore hafter]
  rfl

/-- Blank items are plain. -/
theorem Item.plain_of_isBlank {i : Item} (h : i.isBlank = true) : i.Plain := by
  cases i with
  | lexeme l =>
      cases l with
      | word cs => cases h
      | quoted quote body => exact Item.plain_quoted quote body
      | mark c => exact Item.plain_mark c
  | group inside formula => cases h

/-- A group between blanks has plain items only. -/
theorem plain_around_closed (before is after : List Item)
    (hbefore : ∀ i ∈ before, i.isBlank = true) (hafter : ∀ i ∈ after, i.isBlank = true) :
    ∀ i ∈ before ++ [closed is] ++ after, i.Plain := by
  intro i hi
  simp only [List.mem_append, List.mem_singleton] at hi
  rcases hi with (hi | rfl) | hi
  · exact Item.plain_of_isBlank (hbefore i hi)
  · exact Item.plain_closed is
  · exact Item.plain_of_isBlank (hafter i hi)

/-- A group between blanks is what it holds, also where a conjunction
could stand. -/
theorem conjunction_closed (before is after : List Item)
    (hbefore : ∀ i ∈ before, i.isBlank = true) (hafter : ∀ i ∈ after, i.isBlank = true) :
    conjunction (before ++ [closed is] ++ after) = condition is := by
  rw [conjunction, conjuncts_of_plain (plain_around_closed before is after hbefore hafter),
    List.mapM_cons, List.mapM_nil, operand_closed before is after hbefore hafter]
  cases condition is <;> rfl

/-- Cutting at a connective takes groups apart again. `cut` is one of
the two ways of cutting; it ends a piece at the word of `op` and
nowhere in front of it. The blanks `before` are those that the last
connective left. -/
theorem mapM_cut_joinedItems (op : Connective) (cut : List Item → List (List Item))
    (piece : List Item → Option (Formula String))
    (hlast : ∀ is, (∀ i ∈ is, i.Plain) → cut is = [is])
    (hcut : ∀ is rest, (∀ i ∈ is, i.Plain) →
      cut (is ++ .lexeme (.word op.keyword.toList) :: rest) = is :: cut rest)
    (hpiece : ∀ before is after, (∀ i ∈ before, i.isBlank = true) →
      (∀ i ∈ after, i.isBlank = true) →
      piece (before ++ [closed is] ++ after) = condition is)
    (iss : List (List Item)) (hne : iss ≠ []) (before : List Item)
    (hbefore : ∀ i ∈ before, i.isBlank = true) :
    (cut (before ++ joinedItems op iss)).mapM piece = iss.mapM condition := by
  induction iss generalizing before with
  | nil => exact absurd rfl hne
  | cons is iss ih =>
      cases iss with
      | nil =>
          -- The last group ends the list, so there is nothing to cut at.
          have hplain := plain_around_closed before is [] hbefore (by simp)
          have hformula := hpiece before is [] hbefore (by simp)
          rw [List.append_nil] at hplain hformula
          rw [joinedItems, hlast _ hplain, List.mapM_cons, List.mapM_cons, hformula]
          rfl
      | cons is' iss =>
          -- The connective leaves one blank with each of its neighbours.
          have hblank : ∀ i ∈ [Item.lexeme (.mark ' ')], i.isBlank = true := by
            intro i hi
            rw [List.mem_singleton.mp hi]
            rfl
          have hshape : before ++ joinedItems op (is :: is' :: iss)
              = (before ++ [closed is] ++ [.lexeme (.mark ' ')]) ++
                .lexeme (.word op.keyword.toList) ::
                  ([.lexeme (.mark ' ')] ++ joinedItems op (is' :: iss)) := by
            simp [joinedItems, connectiveItems]
          rw [hshape, hcut _ _ (plain_around_closed before is _ hbefore hblank), List.mapM_cons,
            List.mapM_cons, hpiece before is _ hbefore hblank,
            ih (List.cons_ne_nil is' iss) _ hblank]

/-- Groups with `AND` between them hold no `OR`. -/
theorem isWord_or_joinedItems (iss : List (List Item)) :
    ∀ i ∈ joinedItems .and iss, i.isWord "OR" = false := by
  induction iss with
  | nil => simp [joinedItems]
  | cons is iss ih =>
      cases iss with
      | nil =>
          intro i hi
          rw [List.mem_singleton.mp hi]
          rfl
      | cons is' iss =>
          intro i hi
          simp only [joinedItems, connectiveItems, List.cons_append, List.nil_append,
            List.mem_cons] at hi
          rcases hi with rfl | rfl | rfl | rfl | hi
          · rfl
          · rfl
          · rfl
          · rfl
          · exact ih i (by simpa [joinedItems] using hi)

/-- Groups with a connective between them are this connective of what
they hold. -/
theorem condition_joined (op : Connective) (iss : List (List Item)) (hne : iss ≠ []) :
    condition (joinedItems op iss) = (iss.mapM condition).map (Formula.join op) := by
  cases op with
  | and =>
      -- Nothing is cut at `OR`, and the one piece is cut at every `AND`.
      have hpieces := mapM_cut_joinedItems .and (conjuncts false) operand
        (fun _ h => conjuncts_of_plain h false)
        (fun _ rest h => conjuncts_append_and h rest)
        operand_closed iss hne [] (by simp)
      rw [List.nil_append] at hpieces
      rw [condition, List.splitOnP_eq_singleton (isWord_or_joinedItems iss),
        List.mapM_cons, List.mapM_nil, conjunction, hpieces]
      cases iss.mapM condition <;> rfl
  | or =>
      -- Every piece is a group alone, which is its own only conjunct.
      have hpieces := mapM_cut_joinedItems .or (List.splitOnP (Item.isWord "OR")) conjunction
        (fun _ h => List.splitOnP_eq_singleton fun i hi => (h i hi).or)
        (fun _ rest h => List.splitOnP_append_cons_of_forall_mem
          (fun i hi => (h i hi).or) _ rfl rest)
        conjunction_closed iss hne [] (by simp)
      rw [List.nil_append] at hpieces
      rw [condition, hpieces]

-- Without parentheses `AND` binds tighter than `OR`.
example :
    condition ((["x", "OR", "y", "AND", "z", "BETWEEN", "p", "AND", "q"].map fun text =>
        Item.lexeme (.word text.toList)).intersperse (.lexeme (.mark ' ')))
      = some (.joined .or
          [.leaf "x", .joined .and [.leaf "y", .leaf "z BETWEEN p AND q"]]) := rfl

end FilterSql.Sql
