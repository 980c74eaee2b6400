import Mustache.Proofs.Halt
/-!
# Raising the depth limit

The limit on the depth of partials has a part in one check of a walk, the one that lets a partial come
in. Two renders that differ in the limit therefore go the same way until the one with the lower limit
is cut off there, and what the other one writes from then on only comes behind what both have written.

* `Walk.step_withLimit`: steps under two limits are the same, or the check of the lower limit fails.
* `Walk.prefix_written_run`: what has been written stays, however a run goes on and ends.
* `Walk.run_withLimit`: runs under two limits come to the same, or the one under the lower limit is
  cut off.
* `render_of_higher_limit`: what a render under one limit says about the render under a higher one.

Both facts are about walks with a text behind every marker, and the splices of either run keep it.
-/

namespace Mustache

/-- The renderer with another limit on the depth of partials. -/
def Renderer.withLimit (r : Renderer) (limit : Nat) : Renderer :=
  ⟨r.loader, { r.options with maxPartialDepth := limit }⟩

/-- The limit has no part in what a partial is. -/
theorem Renderer.partialTokens_withLimit (r : Renderer) (limit : Nat) (file : String)
    (parameters : List String) :
    (r.withLimit limit).partialTokens file parameters = r.partialTokens file parameters := rfl

namespace Walk

variable {r : Renderer} {w w' : Walk} {m : Marker} {reference text : String} {d low high : Nat}

/-! ### One step under two limits -/

/-- The lower of two limits is checked, and nothing else is different. -/
theorem included_withLimit (r : Renderer) (w : Walk) (m : Marker) (d : Nat) (reference : String)
    (h : low ≤ high) :
    w.included (r.withLimit low) m d reference = w.included (r.withLimit high) m d reference ∨
      ∃ file, w.included (r.withLimit low) m d reference = .error (.tooDeep file low) := by
  simp only [included_eq, Renderer.partialTokens_withLimit]
  cases w.partialFile m (PartialReference.parse reference).file with
  | error e => exact .inl rfl
  | ok file =>
    by_cases hdepth : d + 1 ≤ low
    · have hlow : (r.withLimit low).checkDepth file (d + 1) = .ok () :=
        Renderer.checkDepth_eq_ok_iff.mpr hdepth
      have hhigh : (r.withLimit high).checkDepth file (d + 1) = .ok () :=
        Renderer.checkDepth_eq_ok_iff.mpr (Nat.le_trans hdepth h)
      exact .inl (by rw [ok_bind, ok_bind, hlow, hhigh])
    · have hlow : (r.withLimit low).checkDepth file (d + 1) = .error (.tooDeep file low) :=
        if_neg hdepth
      exact .inr ⟨file, by rw [ok_bind, hlow, error_bind]⟩

/-- **Steps under two limits are the same, or the lower limit stops the walk.** -/
theorem step_withLimit (hspaced : Spaced (Node.tokens w.tape.rest)) (h : low ≤ high) :
    w.step (r.withLimit low) = w.step (r.withLimit high) ∨
      ∃ file, w.step (r.withLimit low) = .error (w.failure (.tooDeep file low)) := by
  by_cases hstop : ∃ file, w.step (r.withLimit low) = .error (w.failure (.tooDeep file low))
  · exact .inr hstop
  · refine .inl (step_congr hspaced fun {m reference d tail} hm htag hreference => ?_)
    obtain heq | ⟨file, hdeep⟩ := included_withLimit r w m d reference h
    · exact heq
    -- The check of the lower limit would be what stops the step.
    · refine absurd ⟨file, ?_⟩ hstop
      rw [step_partial hm htag, hreference, hdeep]
      rfl

/-- A step that does not fail under the lower limit is the same under the higher one. -/
theorem step_withLimit_of_ok (hspaced : Spaced (Node.tokens w.tape.rest)) (h : low ≤ high)
    {next? : Option Walk} (hstep : w.step (r.withLimit low) = .ok next?) :
    w.step (r.withLimit high) = .ok next? := by
  obtain heq | ⟨file, hdeep⟩ := step_withLimit (r := r) hspaced h
  · exact heq ▸ hstep
  · simp [hdeep] at hstep

/-! ### What has been written stays -/

theorem Adds.keeps_output (h : Adds w text) : w.output.toList <+: text.toList := by
  cases h with
  | nothing => exact List.prefix_rfl
  | text h =>
    rw [String.toList_append]
    exact List.prefix_append _ _
  | value v hm h =>
    rw [String.toList_append]
    exact List.prefix_append _ _

/-- **What has been written stays**, however the run goes on and whether it fails or not. -/
theorem prefix_written_run (hspaced : Spaced (Node.tokens w.stream)) :
    w.output.toList <+: (written (w.run r)).toList := by
  induction w using run.induct r with
  | case1 w next hnext ih =>
    rw [run_of_next hnext]
    exact (adds_of_next hnext).keeps_output.trans (ih (spaced_stream_next hspaced hnext))
  | case2 w hend =>
    rw [run_of_end hend]
    exact List.prefix_rfl
  | case3 w f hf =>
    rw [run_of_failure hf]
    exact (adds_of_failure (spaced_rest hspaced) hf).keeps_output

/-! ### Runs under two limits -/

/-- A run under one limit is cut off where a run under a higher limit may go on. -/
def CutOff (low : Nat) (lower higher : Except RenderFailure String) : Prop :=
  ∃ output file, lower = .error ⟨output, .tooDeep file low⟩ ∧
    output.toList <+: (written higher).toList

/-- **Runs under two limits come to the same, or the lower limit cuts the run off.** -/
theorem run_withLimit (hspaced : Spaced (Node.tokens w.stream)) (h : low ≤ high) :
    w.run (r.withLimit low) = w.run (r.withLimit high) ∨
      CutOff low (w.run (r.withLimit low)) (w.run (r.withLimit high)) := by
  -- The run under the lower limit is followed, as the other one goes the same way.
  induction w using run.induct (r.withLimit low) with
  | case1 w next hnext ih =>
    have hnext' := step_withLimit_of_ok (spaced_rest hspaced) h hnext
    rw [run_of_next hnext, run_of_next hnext']
    exact ih (spaced_stream_next hspaced hnext)
  | case2 w hend =>
    have hend' := step_withLimit_of_ok (spaced_rest hspaced) h hend
    exact .inl (by rw [run_of_end hend, run_of_end hend'])
  | case3 w f hf =>
    obtain heq | ⟨file, hdeep⟩ := step_withLimit (r := r) (spaced_rest hspaced) h
    · have hf' : w.step (r.withLimit high) = .error f := heq ▸ hf
      exact .inl (by rw [run_of_failure hf, run_of_failure hf'])
    · exact .inr ⟨w.output, file, run_of_failure hdeep, prefix_written_run hspaced⟩

end Walk

/-- **Raising the limit on the depth of partials only lets a render go on.** If the render under the
lower limit succeeds, so does the other one with the same output. If it fails for another reason than
the depth, the other one fails at the same place for the same reason. If it fails for the depth, what
it has written comes first in what the other one writes, be that complete or up to an error. -/
theorem render_of_higher_limit {low high : Nat} (h : low ≤ high) (r : Renderer) (template : String)
    (context : Value) :
    (∀ output, (r.withLimit low).render template context = .ok output →
        (r.withLimit high).render template context = .ok output) ∧
      (∀ f, (r.withLimit low).render template context = .error f →
        (∀ file limit, f.error ≠ .tooDeep file limit) →
        (r.withLimit high).render template context = .error f) ∧
      ∀ output file limit,
        (r.withLimit low).render template context = .error ⟨output, .tooDeep file limit⟩ →
        output.toList <+: (written ((r.withLimit high).render template context)).toList := by
  have hspaced := Walk.spaced_of_reaches (r := r) (.refl (Walk.start template context))
  obtain heq | ⟨output, file, hlow, hprefix⟩ := Walk.run_withLimit (r := r) hspaced h
  · simp only [Renderer.render, heq]
    refine ⟨fun output hok => hok, fun f hf _ => hf, fun output file limit hf => ?_⟩
    rw [hf]
    exact List.prefix_rfl
  -- Where the lower limit cuts the run off, the other two cases cannot be.
  · simp only [Renderer.render, hlow]
    refine ⟨nofun, fun f hf hother => ?_, fun output' file' limit hf => ?_⟩
    · obtain rfl := Except.error.inj hf
      exact absurd rfl (hother file low)
    · simp only [Except.error.injEq, RenderFailure.mk.injEq] at hf
      rw [← hf.1]
      exact hprefix

/-- A partial in a partial, under a limit that lets one level in and under one that lets two in. -/
theorem render_partial_in_partial :
    let r : Renderer :=
      ⟨(Store.mk [("p.mustache", "b\x7b\x7b>q\x7d\x7d"), ("q.mustache", "c")]).loader, {}⟩
    let template := "a\x7b\x7b>p\x7d\x7dd"
    1 ≤ 2 ∧ (r.withLimit 1).render template .null = .error ⟨"ab", .tooDeep "q" 1⟩ ∧
      (r.withLimit 2).render template .null = .ok "abcd" ∧ "ab".toList <+: "abcd".toList := by
  intro r template
  have hlow : (r.withLimit 1).render template .null = .error ⟨"ab", .tooDeep "q" 1⟩ :=
    Walk.run_eq_error_of_after (n := 3) (by decide +kernel)
  have hhigh : (r.withLimit 2).render template .null = .ok "abcd" :=
    Walk.run_eq_of_after (n := 7) (by decide +kernel)
  have hprefix := (render_of_higher_limit (by decide : 1 ≤ 2) r template .null).2.2 _ _ _ hlow
  rw [hhigh] at hprefix
  exact ⟨by decide, hlow, hhigh, hprefix⟩

end Mustache
