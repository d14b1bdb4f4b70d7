namespace ODataRequest

variable {ε α β : Type}

theorem bind_eq_ok {x : Except ε α} {f : α → Except ε β} {b : β} :
    x >>= f = .ok b ↔ ∃ a, x = .ok a ∧ f a = .ok b := by
  cases x with
  | error e => simp [bind, Except.bind]
  | ok a => simp [bind, Except.bind]

theorem bind_eq_error {x : Except ε α} {f : α → Except ε β} {e : ε} :
    x >>= f = .error e ↔ x = .error e ∨ ∃ a, x = .ok a ∧ f a = .error e := by
  cases x with
  | error e => simp [bind, Except.bind]
  | ok a => simp [bind, Except.bind]

theorem map_eq_ok {x : Except ε α} {f : α → β} {b : β} :
    x.map f = .ok b ↔ ∃ a, x = .ok a ∧ f a = b := by
  cases x with
  | error e => simp [Except.map]
  | ok a => simp [Except.map]

theorem mapM_length {f : α → Except ε β} {items : List α} {results : List β}
    (mapped : items.mapM f = .ok results) : results.length = items.length := by
  induction items generalizing results with
  | nil =>
    rw [List.mapM_nil] at mapped
    cases mapped
    rfl
  | cons head rest ih =>
    rw [List.mapM_cons] at mapped
    obtain ⟨first, _, mapped⟩ := bind_eq_ok.mp mapped
    obtain ⟨others, inner, same⟩ := bind_eq_ok.mp mapped
    cases same
    rw [List.length_cons, List.length_cons, ih inner]

theorem mem_mapM {f : α → Except ε β} {items : List α} {results : List β}
    (mapped : items.mapM f = .ok results) {b : β} (member : b ∈ results) :
    ∃ a ∈ items, f a = .ok b := by
  induction items generalizing results with
  | nil =>
    rw [List.mapM_nil] at mapped
    cases mapped
    cases member
  | cons head rest ih =>
    rw [List.mapM_cons] at mapped
    obtain ⟨first, applied, mapped⟩ := bind_eq_ok.mp mapped
    obtain ⟨others, inner, same⟩ := bind_eq_ok.mp mapped
    cases same
    rcases List.mem_cons.mp member with rfl | member
    · exact ⟨head, List.mem_cons_self, applied⟩
    · obtain ⟨a, present, applied⟩ := ih inner member
      exact ⟨a, List.mem_cons_of_mem _ present, applied⟩

theorem foldlM_invariant {f : β → α → Except ε β} (holds : β → Prop) {items : List α}
    (keeps : ∀ b a b', a ∈ items → holds b → f b a = .ok b' → holds b') {start final : β}
    (initial : holds start) (folded : items.foldlM f start = .ok final) : holds final := by
  induction items generalizing start with
  | nil =>
    rw [List.foldlM_nil] at folded
    cases folded
    exact initial
  | cons head rest ih =>
    rw [List.foldlM_cons] at folded
    obtain ⟨next, stepped, folded⟩ := bind_eq_ok.mp folded
    exact ih (fun b a b' member => keeps b a b' (List.mem_cons_of_mem _ member))
      (keeps _ _ _ List.mem_cons_self initial stepped) folded

end ODataRequest
