/-
  The references that are being followed.

  * `Context.Framed`: the frames of an evaluation are distinct, belong to
    references that lead to a schema, and were met on the way from the root to
    the value at hand.
  * `Framed.near`, `Framed.follow`: what one step of an evaluation preserves.
  * `Framed.active_lt`: there are no more frames than references times places on
    the way.
-/
import JsonSchema.Proofs.Table
import Mathlib.Data.List.ProdSigma
import Mathlib.Data.List.Infix

namespace JsonSchema

variable {p : Program} {height : ℕ} {c : Context} {v : Json} {reference : String}

theorem Context.isFollowing_iff :
    c.isFollowing reference = true ↔ c.frame reference ∈ c.active := by
  simp [isFollowing]

/-- The frames of an evaluation: they are distinct, their references lead to a schema, and their
places lie on the way to the value at hand, below which no more than `height` levels are left. -/
structure Context.Framed (p : Program) (height : ℕ) (c : Context) (v : Json) : Prop where
  nodup : c.active.Nodup
  resolvable : ∀ f ∈ c.active, f.reference ∈ p.resolvable
  above : ∀ f ∈ c.active, f.path <+: c.path
  high : c.path.length + v.depth ≤ height

namespace Context.Framed

theorem start (p : Program) (verbose : Bool) (v : Json) :
    (Context.start verbose).Framed p v.depth v where
  nodup := List.nodup_nil
  resolvable _ h := nomatch h
  above _ h := nomatch h
  high := by simp [Context.start]

/-- A step down into the value. -/
theorem push (h : c.Framed p height v) {part : String} {w : Json} (hw : (part, w) ∈ v.parts) :
    (c.push part).Framed p height w where
  nodup := h.nodup
  resolvable := h.resolvable
  above f hf := (h.above f hf).trans (List.prefix_append _ _)
  high := by
    have hd := Json.depth_lt_of_mem_parts hw
    have hh := h.high
    simp only [Context.push, List.length_append, List.length_singleton]
    omega

/-- What a task is framed by. -/
theorem near (h : c.Framed p height v) {t : Task} (ht : t.Near c v) :
    t.context.Framed p height t.value := by
  obtain ⟨hc, hv⟩ | ⟨part, hw, hc⟩ := ht
  · rwa [hc, hv]
  · rw [hc]
    exact h.push hw

/-- One reference more. -/
theorem follow (h : c.Framed p height v) (hf : ¬c.isFollowing reference = true)
    (hr : reference ∈ p.resolvable) : (c.follow reference).Framed p height v where
  nodup := by
    rw [Context.isFollowing_iff] at hf
    exact List.nodup_append'.2 ⟨h.nodup, List.nodup_singleton _, by simpa using hf⟩
  resolvable f hm := by
    rcases List.mem_append.1 hm with hm | hm
    · exact h.resolvable f hm
    · rwa [List.mem_singleton.1 hm]
  above f hm := by
    rcases List.mem_append.1 hm with hm | hm
    · exact h.above f hm
    · rw [List.mem_singleton.1 hm]
      exact List.prefix_rfl
  high := h.high

/-- There are no more frames than references times places on the way. -/
theorem active_le (h : c.Framed p height v) :
    c.active.length ≤ p.resolvable.length * (height + 1) := by
  have hsub : c.active.map (fun f => (f.reference, f.path)) ⊆ p.resolvable ×ˢ c.path.inits := by
    intro e he
    obtain ⟨f, hf, rfl⟩ := List.mem_map.1 he
    exact List.pair_mem_product.2 ⟨h.resolvable f hf, (List.mem_inits _ _).2 (h.above f hf)⟩
  have hinj : Function.Injective fun f : Frame => (f.reference, f.path) := by
    rintro ⟨r, path⟩ ⟨r', path'⟩ he
    cases he
    rfl
  have hle := (h.nodup.map hinj).length_le_of_subset hsub
  rw [List.length_map, List.length_product, List.length_inits] at hle
  have hpath : c.path.length + 1 ≤ height + 1 := by
    have hh := h.high
    omega
  exact hle.trans (Nat.mul_le_mul_left _ hpath)

/-- There is room for one frame more as long as the reference is not being followed. -/
theorem active_lt (h : c.Framed p height v) (hf : ¬c.isFollowing reference = true)
    (hr : reference ∈ p.resolvable) :
    c.active.length < p.resolvable.length * (height + 1) := by
  have hle := (h.follow hf hr).active_le
  rwa [Context.follow, List.length_append, List.length_singleton] at hle

end Context.Framed

end JsonSchema
