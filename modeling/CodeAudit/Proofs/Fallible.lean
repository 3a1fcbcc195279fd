/-
  CodeAudit.Proofs.Fallible
  ─────────────────────────
  **COMPUTATIONS THAT MAY FAIL, OVER LISTS.**

  A report is written by going through lists: every item is read (`mapM`) or
  tried (`filterM`), and the first failure ends it.  Items are told apart by
  a key.

    • `mapM_eq_ite` — when all failures are one and the same, reading a list
      fails exactly if one item fails,
    • `mem_of_mapM_ok` — what was read was read off some item,
    • `filterM_eq`, `ok_of_filterM` — trying a list succeeds exactly if it
      succeeds on every item, and then selects,
    • `filter_key_eq` — a key that stands once selects one item.
-/
import CodeAudit.Data.Failure

namespace CodeAudit.Data

variable {α β ε : Type}

@[simp] theorem ok_bind (a : α) (f : α → Except Failure β) :
    ((.ok a : Except Failure α) >>= f) = f a := rfl

@[simp] theorem error_bind (e : Failure) (f : α → Except Failure β) :
    ((.error e : Except Failure α) >>= f) = .error e := rfl

/-- A computation that has succeeded has succeeded at each of its steps. -/
theorem bind_eq_ok {x : Except ε α} {f : α → Except ε β} {b : β}
    (h : (x >>= f) = .ok b) : ∃ a, x = .ok a ∧ f a = .ok b := by
  cases x with
  | error e => cases h
  | ok a => exact ⟨a, rfl, h⟩

/-- A computation whose turned result succeeds has succeeded itself. -/
theorem map_eq_ok {x : Except ε α} {f : α → β} {b : β} (h : x.map f = .ok b) :
    ∃ a, x = .ok a ∧ f a = b := by
  cases x with
  | error e => cases h
  | ok a =>
      cases h
      exact ⟨a, rfl, rfl⟩

/-- A computation that leaves a value has succeeded with it. -/
theorem eq_ok_of_toOption {x : Except ε α} {a : α} (h : x.toOption = some a) : x = .ok a := by
  cases x with
  | error e => cases h
  | ok b =>
      cases h
      rfl

/-! ## §1. Reading every item. -/

/-- A computation on each item succeeds when it succeeds on every item. -/
theorem mapM_ok {f : α → Except Failure β} {xs : List α}
    (h : ∀ x ∈ xs, ∃ y, f x = .ok y) : ∃ ys, xs.mapM f = .ok ys := by
  induction xs with
  | nil => exact ⟨[], rfl⟩
  | cons x rest ih =>
      obtain ⟨y, hy⟩ := h x List.mem_cons_self
      obtain ⟨ys, hys⟩ := ih fun z hz => h z (List.mem_cons_of_mem _ hz)
      refine ⟨y :: ys, ?_⟩
      rw [List.mapM_cons, hy, hys]
      rfl

/-- What a computation on each item gives, it gives on some item. -/
theorem mem_of_mapM_ok {f : α → Except Failure β} {xs : List α} {ys : List β}
    (h : xs.mapM f = .ok ys) {y : β} (hy : y ∈ ys) : ∃ x ∈ xs, f x = .ok y := by
  induction xs generalizing ys with
  | nil =>
      cases h
      cases hy
  | cons x rest ih =>
      rw [List.mapM_cons] at h
      obtain ⟨z, hz, h⟩ := bind_eq_ok h
      obtain ⟨zs, hzs, h⟩ := bind_eq_ok h
      cases h
      rcases List.mem_cons.mp hy with rfl | hy
      · exact ⟨x, List.mem_cons_self, hz⟩
      · obtain ⟨w, hw, hfw⟩ := ih hzs hy
        exact ⟨w, List.mem_cons_of_mem _ hw, hfw⟩

/-- **Where all failures are one,** the whole fails with it if an item does. -/
theorem mapM_eq_ite {f : α → Except ε β} {p : α → Bool} {g : α → β} {e : ε}
    {xs : List α} (h : ∀ x ∈ xs, f x = if p x then .ok (g x) else .error e) :
    xs.mapM f = if xs.all p then .ok (xs.map g) else .error e := by
  induction xs with
  | nil => rfl
  | cons x rest ih =>
      have hrest := ih fun y hy => h y (List.mem_cons_of_mem _ hy)
      rw [List.mapM_cons, h x List.mem_cons_self, hrest, List.all_cons]
      cases p x with
      | false => rfl
      | true => cases rest.all p <;> rfl

/-- A computation that succeeds on every item is a map. -/
theorem mapM_eq_map {f : α → Except Failure β} {g : α → β} {xs : List α}
    (h : ∀ x ∈ xs, f x = .ok (g x)) : xs.mapM f = .ok (xs.map g) := by
  have hall := mapM_eq_ite (p := fun _ => true) (e := .zeroDivisor) h
  rw [List.all_eq_true.mpr fun _ _ => rfl] at hall
  exact hall

/-- A computation that goes on from item to item succeeds when each step does. -/
theorem foldlM_ok {f : β → α → Except ε β} {xs : List α} (h : ∀ b, ∀ x ∈ xs, ∃ c, f b x = .ok c)
    (b : β) : ∃ c, xs.foldlM f b = .ok c := by
  induction xs generalizing b with
  | nil => exact ⟨b, rfl⟩
  | cons x rest ih =>
      obtain ⟨c, hc⟩ := h b x List.mem_cons_self
      obtain ⟨d, hd⟩ := ih (fun b y hy => h b y (List.mem_cons_of_mem _ hy)) c
      refine ⟨d, ?_⟩
      rw [List.foldlM_cons, hc]
      exact hd

/-! ## §2. Trying every item. -/

/-- What has been selected so far stands behind what is selected later. -/
theorem filterAuxM_eq (p : α → Except Failure Bool) (xs acc : List α) :
    xs.filterAuxM p acc = (xs.filterAuxM p []).map (· ++ acc) := by
  induction xs generalizing acc with
  | nil => rfl
  | cons x rest ih =>
      show (p x >>= fun b => rest.filterAuxM p (cond b (x :: acc) acc)) =
        (p x >>= fun b => rest.filterAuxM p (cond b [x] [])).map (· ++ acc)
      cases p x with
      | error e => rfl
      | ok b =>
          show rest.filterAuxM p (cond b (x :: acc) acc) =
            (rest.filterAuxM p (cond b [x] [])).map (· ++ acc)
          rw [ih, ih (cond b [x] [])]
          cases rest.filterAuxM p [] with
          | error e => rfl
          | ok ys => cases b <;> simp [Except.map]

/-- The first item is tried before the others. -/
theorem filterM_cons (p : α → Except Failure Bool) (x : α) (rest : List α) :
    (x :: rest).filterM p =
      (p x >>= fun b => (rest.filterM p).map fun ys => if b then x :: ys else ys) := by
  show ((p x >>= fun b => rest.filterAuxM p (cond b [x] [])) >>= fun ys => .ok ys.reverse) =
    (p x >>= fun b =>
      (rest.filterAuxM p [] >>= fun ys => .ok ys.reverse).map fun ys => if b then x :: ys else ys)
  cases p x with
  | error e => rfl
  | ok b =>
      show (rest.filterAuxM p (cond b [x] []) >>= fun ys => .ok ys.reverse) = _
      rw [filterAuxM_eq]
      cases rest.filterAuxM p [] with
      | error e => rfl
      | ok ys => cases b <;> simp [Except.map]

/-- A test that succeeds on every item selects. -/
theorem filterM_eq {p : α → Except Failure Bool} {q : α → Bool} {xs : List α}
    (h : ∀ x ∈ xs, p x = .ok (q x)) : xs.filterM p = .ok (xs.filter q) := by
  induction xs with
  | nil => rfl
  | cons x rest ih =>
      rw [filterM_cons, h x List.mem_cons_self, ih fun y hy => h y (List.mem_cons_of_mem _ hy),
        List.filter_cons]
      rfl

/-- A test succeeds on a list when it succeeds on every item. -/
theorem filterM_ok {p : α → Except Failure Bool} {xs : List α} (h : ∀ x ∈ xs, ∃ b, p x = .ok b) :
    ∃ ys, xs.filterM p = .ok ys := by
  refine ⟨xs.filter fun x => (p x).toOption.getD false, filterM_eq fun x hx => ?_⟩
  obtain ⟨b, hb⟩ := h x hx
  rw [hb]
  rfl

/-- A selection has succeeded on every item. -/
theorem ok_of_filterM {p : α → Except Failure Bool} {xs ys : List α} (h : xs.filterM p = .ok ys) :
    ∀ x ∈ xs, ∃ b, p x = .ok b := by
  induction xs generalizing ys with
  | nil => exact fun x hx => nomatch hx
  | cons y rest ih =>
      rw [filterM_cons] at h
      obtain ⟨b, hb, h⟩ := bind_eq_ok h
      intro x hx
      rcases List.mem_cons.mp hx with rfl | hx
      · exact ⟨b, hb⟩
      · cases hrest : rest.filterM p with
        | error e =>
            rw [hrest] at h
            cases h
        | ok zs => exact ih hrest x hx

/-- Items with the same tests are selected alike. -/
theorem filterM_map {p : β → Except Failure Bool} {q : α → Except Failure Bool} {f : α → β}
    (h : ∀ x, p (f x) = q x) (xs : List α) :
    (xs.map f).filterM p = (xs.filterM q).map (List.map f) := by
  induction xs with
  | nil => rfl
  | cons x rest ih =>
      rw [List.map_cons, filterM_cons, filterM_cons, h x, ih]
      cases q x with
      | error e => rfl
      | ok b =>
          cases rest.filterM q with
          | error e => rfl
          | ok ys => cases b <;> rfl

/-! ## §3. Items by a key. -/

/-- Where no two items share a key, the key of an item selects that item. -/
theorem filter_key_eq {key : α → String} {items : List α} (hkeys : (items.map key).Nodup) {a : α}
    (ha : a ∈ items) : items.filter (fun b => key b == key a) = [a] := by
  induction items with
  | nil => cases ha
  | cons b rest ih =>
      rw [List.map_cons, List.nodup_cons] at hkeys
      obtain ⟨hfresh, hrest⟩ := hkeys
      rw [List.filter_cons]
      rcases List.mem_cons.mp ha with rfl | ha
      · rw [if_pos (beq_self_eq_true _), List.filter_eq_nil_iff.mpr]
        intro other hother heq
        exact hfresh (List.mem_map.mpr ⟨other, hother, eq_of_beq heq⟩)
      · have hne : ¬ (key b == key a) = true := by
          intro heq
          exact hfresh (List.mem_map.mpr ⟨a, ha, (eq_of_beq heq).symm⟩)
        rw [if_neg hne, ih hrest ha]

end CodeAudit.Data
