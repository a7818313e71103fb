import JsxOutline.Component
import JsxOutline.Tree
import Mathlib.Data.List.Basic
import Mathlib.Logic.Function.Iterate

/-!
# Walks turn by turn

A walk has a stack of values that it has yet to go to.  In a turn it takes a value from the top of
the stack and puts there what lies right below the value.  Main statement: the walks through syntax
trees and through trees of components end, after one turn for each node; what they meet is the
listing that is made by recursion, and it has each place of the tree once, a place before those
below it and siblings in order.
-/

namespace JsxOutline

variable {α : Type} {below listing : α → List α}

/-! ### Turns -/

/-- A walk on its way: the values that it has yet to go to, the next one last, and those that it has
met. -/
structure Walker (α : Type) where
  stack : List α
  met : List α

namespace Walker

def start (root : α) : Walker α := ⟨[root], []⟩

/-- One turn: the last value of the stack is met, and what lies right below it comes in its place,
the first of it last.  With an empty stack there is nothing to do. -/
def turn (below : α → List α) (w : Walker α) : Walker α :=
  match w.stack.getLast? with
  | none => w
  | some x => ⟨w.stack.dropLast ++ (below x).reverse, w.met ++ [x]⟩

/-- What lies ahead of a walk, if each value of the stack is followed by all that lies below it. -/
def ahead (listing : α → List α) (w : Walker α) : List α := w.stack.reverse.flatMap listing

theorem turn_of_nil {w : Walker α} (h : w.stack = []) : w.turn below = w := by
  rw [turn, h, List.getLast?_nil]

theorem turn_of_concat {w : Walker α} {rest : List α} {x : α} (h : w.stack = rest ++ [x]) :
    w.turn below = ⟨rest ++ (below x).reverse, w.met ++ [x]⟩ := by
  rw [turn, h, List.getLast?_concat, List.dropLast_concat]

-- A turn moves the first value that lies ahead to those that were met, and changes nothing else.
theorem turn_spec (h : IsRecursiveListing below listing) (w : Walker α) :
    (w.turn below).met = w.met ++ (w.ahead listing).take 1 ∧
      (w.turn below).ahead listing = (w.ahead listing).drop 1 := by
  rcases List.eq_nil_or_concat' w.stack with hstack | ⟨rest, x, hstack⟩
  · have hahead : w.ahead listing = [] := by rw [ahead, hstack]; rfl
    rw [turn_of_nil hstack, hahead]
    exact ⟨(List.append_nil _).symm, rfl⟩
  · have hahead : w.ahead listing =
        x :: ((below x).flatMap listing ++ rest.reverse.flatMap listing) := by
      rw [ahead, hstack, List.reverse_concat, List.flatMap_cons, h x, List.cons_append]
    rw [turn_of_concat hstack, hahead]
    refine ⟨rfl, ?_⟩
    rw [ahead, List.reverse_append, List.reverse_reverse, List.flatMap_append]
    rfl

theorem iterate_turn_spec (h : IsRecursiveListing below listing) (turns : Nat) (w : Walker α) :
    ((turn below)^[turns] w).met = w.met ++ (w.ahead listing).take turns ∧
      ((turn below)^[turns] w).ahead listing = (w.ahead listing).drop turns := by
  induction turns generalizing w with
  | zero => exact ⟨(List.append_nil _).symm, rfl⟩
  | succ turns ih =>
    obtain ⟨hmet, hahead⟩ := turn_spec h w
    obtain ⟨hmets, haheads⟩ := ih (w.turn below)
    rw [Function.iterate_succ_apply, hmets, haheads, hmet, hahead, List.append_assoc,
      ← List.take_add, List.drop_drop, Nat.add_comm 1 turns]
    exact ⟨rfl, rfl⟩

theorem stack_eq_nil_iff (h : IsRecursiveListing below listing) (w : Walker α) :
    w.stack = [] ↔ w.ahead listing = [] := by
  constructor
  · intro hstack
    rw [ahead, hstack]
    rfl
  · intro hahead
    rw [← List.reverse_eq_nil_iff, List.eq_nil_iff_forall_not_mem]
    intro x hx
    have hnone := List.flatMap_eq_nil_iff.mp hahead x hx
    rw [h x] at hnone
    cases hnone

theorem ahead_start (root : α) : (start root).ahead listing = listing root :=
  List.flatMap_singleton _ _

end Walker

/-! ### Addresses -/

/-- Where a value stands: to which of the values right below one has to go, step by step from the
root. -/
abbrev Address := List Nat

namespace Address

/-- An address comes before those below it; of two that part, the one that goes to the earlier
sibling comes first. -/
def Precedes (a b : Address) : Prop :=
  (a <+: b ∧ a ≠ b) ∨ ∃ above i j, i < j ∧ above ++ [i] <+: a ∧ above ++ [j] <+: b

theorem Precedes.cons {a b : Address} (h : Precedes a b) (i : Nat) :
    Precedes (i :: a) (i :: b) := by
  obtain ⟨hbelow, hne⟩ | ⟨above, j, k, hjk, hleft, hright⟩ := h
  · exact .inl ⟨List.cons_prefix_cons.mpr ⟨rfl, hbelow⟩, fun he => hne (List.cons.inj he).2⟩
  · exact .inr ⟨i :: above, j, k, hjk, List.cons_prefix_cons.mpr ⟨rfl, hleft⟩,
      List.cons_prefix_cons.mpr ⟨rfl, hright⟩⟩

theorem precedes_of_lt {a b : Address} (h : a < b) : Precedes a b := by
  induction a generalizing b with
  | nil =>
    refine .inl ⟨List.nil_prefix, ?_⟩
    rintro rfl
    exact List.lt_irrefl _ h
  | cons i a ih =>
    cases b with
    | nil => exact absurd h (List.not_lt_nil _)
    | cons j b =>
      rcases List.cons_lt_cons_iff.mp h with hij | ⟨rfl, hab⟩
      · exact .inr ⟨[], i, j, hij, List.prefix_append [i] a, List.prefix_append [j] b⟩
      · exact (ih hab).cons i

def shifted : Address → Address
  | [] => []
  | i :: a => (i + 1) :: a

theorem shifted_lt_shifted {a b : Address} (h : a < b) : shifted a < shifted b := by
  cases a with
  | nil =>
    cases b with
    | nil => exact h
    | cons j b => exact List.nil_lt_cons _ _
  | cons i a =>
    cases b with
    | nil => exact absurd h (List.not_lt_nil _)
    | cons j b =>
      refine List.cons_lt_cons_iff.mpr ?_
      rcases List.cons_lt_cons_iff.mp h with hij | ⟨rfl, hab⟩
      · exact .inl (Nat.succ_lt_succ hij)
      · exact .inr ⟨rfl, hab⟩

/-- The value at an address below a root. -/
def at? (below : α → List α) : α → Address → Option α
  | x, [] => some x
  | x, i :: a => (below x)[i]?.bind fun y => at? below y a

/-- The value at an address that begins with one of some siblings. -/
def atAll? (below : α → List α) (siblings : List α) : Address → Option α
  | [] => none
  | i :: a => siblings[i]?.bind fun y => at? below y a

theorem atAll?_shifted (y : α) (ys : List α) (a : Address) :
    atAll? below (y :: ys) (shifted a) = atAll? below ys a := by
  cases a <;> rfl

end Address

/-! ### Places that are visited -/

open Address

/-- Values are listed by their addresses: each address at which there is a value once, in order. -/
structure ListsPlaces (value? : Address → Option α) (values : List α) (addresses : List Address) :
    Prop where
  sorted : addresses.Pairwise (· < ·)
  mem_iff : ∀ a, a ∈ addresses ↔ (value? a).isSome = true
  values_eq : values.map some = addresses.map value?

namespace ListsPlaces

theorem nil : ListsPlaces (atAll? below []) [] [] :=
  ⟨.nil, fun a => by cases a <;> simp [atAll?], rfl⟩

theorem ne_nil {ys values : List α} {addresses : List Address}
    (h : ListsPlaces (atAll? below ys) values addresses) {a : Address} (ha : a ∈ addresses) :
    a ≠ [] := by
  rintro rfl
  have hsome := (h.mem_iff []).mp ha
  cases hsome

theorem cons {y : α} {ys first rest : List α} {as bs : List Address}
    (hfirst : ListsPlaces (at? below y) first as)
    (hrest : ListsPlaces (atAll? below ys) rest bs) :
    ListsPlaces (atAll? below (y :: ys)) (first ++ rest) (as.map (0 :: ·) ++ bs.map shifted) where
  sorted := by
    rw [List.pairwise_append, List.pairwise_map, List.pairwise_map]
    refine ⟨hfirst.sorted.imp fun h => List.cons_lt_cons_iff.mpr (.inr ⟨rfl, h⟩),
      hrest.sorted.imp shifted_lt_shifted, ?_⟩
    intro a ha b hb
    obtain ⟨a, -, rfl⟩ := List.mem_map.mp ha
    obtain ⟨c, hc, rfl⟩ := List.mem_map.mp hb
    cases c with
    | nil => exact absurd rfl (hrest.ne_nil hc)
    | cons i c => exact List.cons_lt_cons_iff.mpr (.inl (Nat.succ_pos i))
  mem_iff := by
    intro a
    rw [List.mem_append, List.mem_map, List.mem_map]
    constructor
    · rintro (⟨a, ha, rfl⟩ | ⟨b, hb, rfl⟩)
      · exact (hfirst.mem_iff a).mp ha
      · rw [atAll?_shifted]
        exact (hrest.mem_iff b).mp hb
    · intro hsome
      match a, hsome with
      | 0 :: a, hsome => exact .inl ⟨a, (hfirst.mem_iff a).mpr hsome, rfl⟩
      | (i + 1) :: a, hsome => exact .inr ⟨i :: a, (hrest.mem_iff (i :: a)).mpr hsome, rfl⟩
  values_eq := by
    have hshifted : (atAll? below (y :: ys)) ∘ shifted = atAll? below ys :=
      funext (atAll?_shifted y ys)
    rw [List.map_append, List.map_append, List.map_map, List.map_map, hshifted, hfirst.values_eq,
      hrest.values_eq]
    rfl

theorem node {x : α} {values : List α} {addresses : List Address}
    (h : ListsPlaces (atAll? below (below x)) values addresses) :
    ListsPlaces (at? below x) (x :: values) ([] :: addresses) where
  sorted := by
    refine List.pairwise_cons.mpr ⟨?_, h.sorted⟩
    intro a ha
    cases a with
    | nil => exact absurd rfl (h.ne_nil ha)
    | cons i a => exact List.nil_lt_cons _ _
  mem_iff := by
    intro a
    cases a with
    | nil => exact iff_of_true List.mem_cons_self rfl
    | cons i a =>
      rw [List.mem_cons, or_iff_right (List.cons_ne_nil i a), h.mem_iff]
      rfl
  values_eq := by
    have hsame : ∀ a ∈ addresses, atAll? below (below x) a = at? below x a := by
      intro a ha
      cases a with
      | nil => exact absurd rfl (h.ne_nil ha)
      | cons i a => rfl
    rw [List.map_cons, List.map_cons, h.values_eq, List.map_congr_left hsame]
    rfl

theorem exists_of_siblings {ys : List α}
    (h : ∀ y ∈ ys, ∃ addresses, ListsPlaces (at? below y) (listing y) addresses) :
    ∃ addresses, ListsPlaces (atAll? below ys) (ys.flatMap listing) addresses := by
  induction ys with
  | nil => exact ⟨[], nil⟩
  | cons y ys ih =>
    obtain ⟨hfirst, hrest⟩ := List.forall_mem_cons.mp h
    obtain ⟨as, has⟩ := hfirst
    obtain ⟨bs, hbs⟩ := ih hrest
    exact ⟨_, has.cons hbs⟩

theorem exists_of_listing (h : IsRecursiveListing below listing) (x : α) :
    ∃ addresses, ListsPlaces (at? below x) (listing x) addresses := by
  have hbelow : ∀ y ∈ below x, ∃ addresses, ListsPlaces (at? below y) (listing y) addresses := by
    intro y hy
    have hlt : (listing y).length < (listing x).length := by
      have hle := (List.sublist_flatten_of_mem (List.mem_map_of_mem (f := listing) hy)).length_le
      rw [h x, List.length_cons]
      exact Nat.lt_succ_of_le hle
    exact exists_of_listing h y
  obtain ⟨addresses, hall⟩ := exists_of_siblings hbelow
  rw [h x]
  exact ⟨_, hall.node⟩
termination_by (listing x).length

end ListsPlaces

/-! ### Walks through trees -/

/-- A walk goes through all that there is from a root on, and what it meets are certain values. -/
structure GoesThrough (below : α → List α) (root : α) (met : List α) : Prop where
  /-- After some turns the first of the values are met, as many as there were turns. -/
  meets : ∀ turns, ((Walker.turn below)^[turns] (.start root)).met = met.take turns
  /-- A walk that may visit only so many values meets what is met in as many turns. -/
  bounded : ∀ fuel, walkFrom below fuel [root] = met.take fuel
  /-- The walk ends when it has met all of them, and not before. -/
  ends : ∀ turns, ((Walker.turn below)^[turns] (.start root)).stack = [] ↔ met.length ≤ turns
  /-- The values are those at all addresses, each taken once, in order. -/
  visits : ∃ addresses : List Address, addresses.Nodup ∧ addresses.Pairwise Precedes ∧
    (∀ a, a ∈ addresses ↔ (at? below root a).isSome = true) ∧
    met.map some = addresses.map (at? below root)

theorem goesThrough_of_listing (h : IsRecursiveListing below listing) (root : α) :
    GoesThrough below root (listing root) := by
  have hturns := fun turns => Walker.iterate_turn_spec h turns (.start root)
  simp only [Walker.ahead_start] at hturns
  obtain ⟨addresses, hplaces⟩ := ListsPlaces.exists_of_listing h root
  refine ⟨fun turns => (hturns turns).1, ?_, ?_, addresses, ?_, ?_, hplaces.mem_iff,
    hplaces.values_eq⟩
  · intro fuel
    rw [walkFrom_eq_take h, List.flatMap_singleton]
  · intro turns
    rw [Walker.stack_eq_nil_iff h, (hturns turns).2, List.drop_eq_nil_iff]
  · refine hplaces.sorted.imp ?_
    rintro a _ hlt rfl
    exact List.lt_irrefl a hlt
  · exact hplaces.sorted.imp precedes_of_lt

/-- The walks through a syntax tree and through a tree of components meet what the listings have
that are made by recursion, in the same order, and end with it. -/
theorem goesThrough_walk :
    (IsRecursiveListing Tree.children Tree.preorder ∧
      ∀ t : Tree, t.walk = t.preorder ∧ GoesThrough Tree.children t t.walk) ∧
    IsRecursiveListing Component.children Component.preorder ∧
      ∀ c : Component, c.walk = c.preorder ∧ GoesThrough Component.children c c.walk := by
  refine ⟨⟨Tree.preorder_eq, fun t => ⟨t.walk_eq_preorder, ?_⟩⟩,
    Component.preorder_eq, fun c => ⟨c.walk_eq_preorder, ?_⟩⟩
  · rw [Tree.walk_eq_preorder]
    exact goesThrough_of_listing Tree.preorder_eq t
  · rw [Component.walk_eq_preorder]
    exact goesThrough_of_listing Component.preorder_eq c

end JsxOutline
