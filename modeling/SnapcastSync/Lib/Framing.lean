import Mathlib.Data.List.Basic

/-! A stream cut into pieces at its terminators, by a framer that gets it in segments, keeps a
bounded rest between them and skips a piece of which it held too much. -/

structure Framer (α : Type*) where
  pending : List α
  skipping : Bool
  out : List (List α)

namespace Framer

variable {α : Type*} (ends : α → Bool) (cap : Nat)

/-- The pieces of a stream that end, after what there was of the first of them. -/
def pieces : List α → List α → List (List α)
  | _, [] => []
  | piece, item :: rest =>
      if ends item then piece :: pieces [] rest else pieces (piece ++ [item]) rest

def marked : List α → List (α × Bool)
  | [] => []
  | [last] => [(last, true)]
  | item :: next :: rest => (item, false) :: marked (next :: rest)

def markedStream (segments : List (List α)) : List (α × Bool) :=
  segments.flatMap marked

def fresh : Framer α :=
  { pending := []
    skipping := false
    out := [] }

def push (framer : Framer α) (item : α) : Framer α :=
  if ends item then
    { pending := []
      skipping := false
      out := if framer.skipping then framer.out else framer.out ++ [framer.pending] }
  else { framer with pending := framer.pending ++ [item] }

def check (framer : Framer α) : Framer α :=
  if cap < framer.pending.length then
    { framer with
      pending := []
      skipping := true }
  else framer

/-- An item, and the check after it where its segment ends. -/
def step (framer : Framer α) (item : α × Bool) : Framer α :=
  if item.2 then (framer.push ends item.1).check cap else framer.push ends item.1

def Cut (piece : List (α × Bool)) : Bool := (piece.drop cap).any Prod.snd

def endsMarked (item : α × Bool) : Bool := ends item.1

/-- What the framer knows of the piece that it is in. -/
def Follows (framer : Framer α) (piece : List (α × Bool)) : Prop :=
  if Cut cap piece then framer.skipping = true
  else framer.skipping = false ∧ framer.pending = piece.map Prod.fst

theorem marked_map_fst (segment : List α) : (marked segment).map Prod.fst = segment := by
  fun_induction marked segment with
  | case1 => rfl
  | case2 last => rfl
  | case3 item next rest ih => rw [List.map_cons, ih]

theorem markedStream_map_fst (segments : List (List α)) :
    (markedStream segments).map Prod.fst = segments.flatten := by
  induction segments with
  | nil => rfl
  | cons segment rest ih =>
      rw [markedStream, List.flatMap_cons, List.map_append, marked_map_fst, List.flatten_cons]
      exact congrArg (segment ++ ·) ih

theorem pieces_map_fst (piece stream : List (α × Bool)) :
    (pieces (endsMarked ends) piece stream).map (List.map Prod.fst) =
      pieces ends (piece.map Prod.fst) (stream.map Prod.fst) := by
  induction stream generalizing piece with
  | nil => rfl
  | cons item rest ih =>
      rw [List.map_cons, pieces, pieces]
      by_cases ended : ends item.1 = true
      · rw [if_pos ended, if_pos (show endsMarked ends item = true from ended), List.map_cons, ih]
        rfl
      · rw [if_neg ended, if_neg (show ¬ endsMarked ends item = true from ended), ih,
          List.map_append]
        rfl

/-- Of an ended piece there is nothing inside that ends. -/
theorem pieces_append (piece stream rest : List α) (open_ : ∀ item ∈ stream, ends item = false) :
    pieces ends piece (stream ++ rest) = pieces ends (piece ++ stream) rest := by
  induction stream generalizing piece with
  | nil => rw [List.nil_append, List.append_nil]
  | cons item later ih =>
      rw [List.cons_append, pieces, open_ item List.mem_cons_self, if_neg Bool.false_ne_true,
        ih _ fun item member => open_ item (List.mem_cons_of_mem _ member), List.append_assoc]
      rfl

theorem cut_nil : Cut cap ([] : List (α × Bool)) = false := by
  rw [Cut, List.drop_nil]
  rfl

theorem cut_concat (piece : List (α × Bool)) (item : α × Bool) :
    Cut cap (piece ++ [item]) = (Cut cap piece || (decide (cap ≤ piece.length) && item.2)) := by
  rw [Cut, Cut, List.drop_append, List.any_append]
  by_cases within : cap ≤ piece.length
  · rw [Nat.sub_eq_zero_of_le within, decide_eq_true within]
    simp
  · have beyond : 1 ≤ cap - piece.length := by omega
    rw [decide_eq_false within, List.drop_eq_nil_of_le (show [item].length ≤ _ from beyond)]
    rfl

theorem foldl_push_open (framer : Framer α) (items : List α)
    (open_ : ∀ item ∈ items, ends item = false) :
    items.foldl (push ends) framer = { framer with pending := framer.pending ++ items } := by
  induction items generalizing framer with
  | nil => rw [List.foldl_nil, List.append_nil]
  | cons item later ih =>
      rw [List.foldl_cons, ih _ fun item member => open_ item (List.mem_cons_of_mem _ member), push,
        open_ item List.mem_cons_self, if_neg Bool.false_ne_true]
      simp

theorem foldl_push_pending (framer : Framer α) (items : List α)
    (open_ : ∀ item ∈ framer.pending, ends item = false) :
    ∀ item ∈ (items.foldl (push ends) framer).pending, ends item = false := by
  induction items generalizing framer with
  | nil => exact open_
  | cons item later ih =>
      apply ih
      intro held member
      rw [push] at member
      cases ended : ends item with
      | true =>
          rw [if_pos ended] at member
          cases member
      | false =>
          rw [if_neg (by rw [ended]; exact Bool.false_ne_true), List.mem_append,
            List.mem_singleton] at member
          rcases member with before | rfl
          · exact open_ held before
          · exact ended

theorem check_pending (framer : Framer α) (open_ : ∀ item ∈ framer.pending, ends item = false) :
    ∀ item ∈ (framer.check cap).pending, ends item = false := by
  intro item member
  rw [check] at member
  split at member
  · cases member
  · exact open_ item member

theorem foldl_push_piece (framer : Framer α) (items rest : List α) (last : α)
    (open_ : ∀ item ∈ items, ends item = false) (ended : ends last = true) :
    (items ++ last :: rest).foldl (push ends) framer =
      rest.foldl (push ends)
        { pending := []
          skipping := false
          out :=
            if framer.skipping then framer.out else framer.out ++ [framer.pending ++ items] } := by
  rw [List.foldl_append, List.foldl_cons, foldl_push_open ends framer items open_, push, if_pos ended]

theorem foldl_marked (framer : Framer α) (segment : List α) (some_ : segment ≠ []) :
    (marked segment).foldl (step ends cap) framer =
      (segment.foldl (push ends) framer).check cap := by
  fun_induction marked segment generalizing framer with
  | case1 => exact absurd rfl some_
  | case2 last => rfl
  | case3 item next rest ih => exact ih _ (List.cons_ne_nil next rest)

theorem Follows.fresh : (fresh : Framer α).Follows cap [] := by
  rw [Follows, cut_nil, if_neg Bool.false_ne_true]
  exact ⟨rfl, rfl⟩

theorem Follows.step {framer : Framer α} {piece : List (α × Bool)}
    (follows : framer.Follows cap piece) (item : α × Bool) (inside : ends item.1 = false) :
    (framer.step ends cap item).Follows cap (piece ++ [item]) ∧
      (framer.step ends cap item).out = framer.out := by
  have pushed : framer.push ends item.1 = { framer with pending := framer.pending ++ [item.1] } := by
    rw [push, inside, if_neg Bool.false_ne_true]
  rw [Follows] at follows
  rw [Follows, cut_concat, Framer.step, pushed, check]
  cases was : Cut cap piece with
  | true =>
      rw [was, if_pos rfl] at follows
      rw [Bool.true_or, if_pos rfl]
      constructor
      · split
        · split
          · rfl
          · exact follows
        · exact follows
      · split
        · split <;> rfl
        · rfl
  | false =>
      rw [was, if_neg Bool.false_ne_true] at follows
      obtain ⟨keeping, held⟩ := follows
      have length : (framer.pending ++ [item.1]).length = piece.length + 1 := by
        rw [held, List.length_append, List.length_map]
        rfl
      have kept : framer.pending ++ [item.1] = (piece ++ [item]).map Prod.fst := by
        rw [held, List.map_append]
        rfl
      rw [Bool.false_or]
      cases boundary : item.2 with
      | false =>
          rw [if_neg Bool.false_ne_true, Bool.and_false, if_neg Bool.false_ne_true]
          exact ⟨⟨keeping, kept⟩, rfl⟩
      | true =>
          rw [if_pos rfl, Bool.and_true]
          dsimp only
          rw [length]
          by_cases within : cap ≤ piece.length
          · rw [decide_eq_true within, if_pos rfl, if_pos (Nat.lt_succ_of_le within)]
            exact ⟨rfl, rfl⟩
          · rw [decide_eq_false within, if_neg Bool.false_ne_true,
              if_neg (fun beyond => within (Nat.le_of_lt_succ beyond))]
            exact ⟨⟨keeping, kept⟩, rfl⟩

theorem Follows.close {framer : Framer α} {piece : List (α × Bool)}
    (follows : framer.Follows cap piece) (item : α × Bool) (ended : ends item.1 = true) :
    (framer.step ends cap item).Follows cap [] ∧
      (framer.step ends cap item).out =
        framer.out ++ if Cut cap piece then [] else [piece.map Prod.fst] := by
  have out : (if framer.skipping then framer.out else framer.out ++ [framer.pending]) =
      framer.out ++ if Cut cap piece then [] else [piece.map Prod.fst] := by
    rw [Follows] at follows
    cases was : Cut cap piece with
    | true =>
        rw [was, if_pos rfl] at follows
        rw [follows, if_pos rfl, if_pos rfl, List.append_nil]
    | false =>
        rw [was, if_neg Bool.false_ne_true] at follows
        rw [follows.1, follows.2, if_neg Bool.false_ne_true, if_neg Bool.false_ne_true]
  have stepped : framer.step ends cap item =
      { pending := []
        skipping := false
        out := if framer.skipping then framer.out else framer.out ++ [framer.pending] } := by
    rw [Framer.step, push, if_pos ended, check]
    dsimp only
    rw [List.length_nil, if_neg (Nat.not_lt_zero cap), ite_self]
  rw [stepped, out]
  refine ⟨?_, rfl⟩
  rw [Follows, cut_nil, if_neg Bool.false_ne_true]
  exact ⟨rfl, rfl⟩

theorem run_out (framer : Framer α) (piece stream : List (α × Bool))
    (follows : framer.Follows cap piece) :
    (stream.foldl (step ends cap) framer).out =
      framer.out ++
        ((pieces (endsMarked ends) piece stream).filter fun piece => !Cut cap piece).map
          (List.map Prod.fst) := by
  induction stream generalizing framer piece with
  | nil => exact (List.append_nil _).symm
  | cons item rest ih =>
      rw [List.foldl_cons, pieces]
      cases ended : ends item.1 with
      | true =>
          obtain ⟨onward, out⟩ := follows.close ends cap item ended
          rw [ih _ _ onward, out, if_pos (show endsMarked ends item = true from ended),
            List.filter_cons]
          cases Cut cap piece with
          | true => simp
          | false => simp
      | false =>
          obtain ⟨onward, out⟩ := follows.step ends cap item ended
          rw [ih _ _ onward, out, if_neg (by rw [endsMarked, ended]; exact Bool.false_ne_true)]

theorem fresh_out (segments : List (List α)) :
    ((markedStream segments).foldl (step ends cap) fresh).out =
      ((pieces (endsMarked ends) [] (markedStream segments)).filter
        fun piece => !Cut cap piece).map (List.map Prod.fst) :=
  run_out ends cap fresh [] (markedStream segments) (Follows.fresh cap)

theorem lt_length_of_cut {piece : List (α × Bool)} (cut : Cut cap piece = true) :
    cap < piece.length := by
  by_contra within
  rw [Cut, List.drop_eq_nil_of_le (Nat.not_lt.mp within)] at cut
  cases cut

/-- Just the pieces that fit are handed out when each longer one is cut. -/
theorem uncut_eq_fitting_iff (ended : List (List (α × Bool))) :
    (ended.filter fun piece => !Cut cap piece).map (List.map Prod.fst) =
        (ended.map (List.map Prod.fst)).filter (fun piece => decide (piece.length ≤ cap)) ↔
      ∀ piece ∈ ended, cap < piece.length → Cut cap piece = true := by
  have fitting : (ended.map (List.map Prod.fst)).filter (fun piece => decide (piece.length ≤ cap)) =
      (ended.filter fun piece => decide (piece.length ≤ cap)).map (List.map Prod.fst) := by
    rw [List.filter_map]
    congr 1
    apply List.filter_congr
    intro piece _
    rw [Function.comp_apply, List.length_map]
  have shorter (piece : List (α × Bool)) (fits : decide (piece.length ≤ cap) = true) :
      (!Cut cap piece) = true := by
    rw [Bool.not_eq_true', ← Bool.not_eq_true]
    intro cut
    exact absurd (of_decide_eq_true fits) (Nat.not_le.mpr (lt_length_of_cut cap cut))
  rw [fitting]
  constructor
  · intro same piece member long
    have lengths := congrArg List.length same
    rw [List.length_map, List.length_map] at lengths
    have sub := List.monotone_filter_right ended shorter
    have equal := sub.eq_of_length lengths.symm
    by_contra uncut
    have kept : piece ∈ ended.filter fun piece => !Cut cap piece :=
      List.mem_filter.mpr ⟨member, by rw [Bool.not_eq_true] at uncut; rw [uncut]; rfl⟩
    rw [← equal] at kept
    exact absurd (of_decide_eq_true (List.mem_filter.mp kept).2) (Nat.not_le.mpr long)
  · intro cuts
    congr 1
    apply List.filter_congr
    intro piece member
    by_cases fits : piece.length ≤ cap
    · rw [decide_eq_true fits]
      exact shorter piece (decide_eq_true fits)
    · rw [decide_eq_false fits, cuts piece member (Nat.not_le.mp fits)]
      rfl

end Framer
