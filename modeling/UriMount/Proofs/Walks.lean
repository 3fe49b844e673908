import UriMount.Walk
import UriMount.Proofs.RoundTrip
import UriMount.Proofs.Mounts

/-!
# Walks stay at their origin

The steps of a walk hand raw components to each other: an appended segment may put
a question mark or two slashes into the path before the next step writes the URI
and reads it again. Scheme and authority come through unharmed as long as the path
is rooted, and every step leaves it rooted.
-/

namespace UriMount

open Text

/-- A step whose arguments are there and whose references are local. -/
def Step.IsLocal : Step → Prop
  | .append _ => True
  | .resolve reference => ∃ t r, reference = some t ∧ UriMount.IsLocal t r
  | .follow reference => ∃ r, UriMount.IsLocal reference r
  | .mount => True
  | .reread => True
  | .path extra => extra.isSome

/-- A URI whose origin every local step keeps: it can have a mount, its path is rooted,
and trimming blanks cannot reach into its authority. -/
structure Uri.IsStation (u : Uri) : Prop extends u.Hosted, u.IsMountable where
  /-- The authority does not end with a blank. -/
  isBlank_of_getLast? : ∀ c, u.authority.getLast? = some c → isBlank c = false

namespace Uri.IsStation

variable {u : Uri} (h : u.IsStation)
include h

/-- Another path at the same origin makes another station, if it is rooted. -/
theorem of_origin {v : Uri} (hs : v.scheme = u.scheme) (ha : v.authority = u.authority)
    (hp : IsRooted v.path) : v.IsStation := by
  cases v
  cases hs
  cases ha
  exact { h with path_isRooted := hp }

/-- There is a mount at a station, with a base of the same origin. -/
theorem exists_mount : ∃ m, Mount.ofSource (some (.split u)) = .ok m ∧ m.base = Mount.baseAt u ∧
    m.base.Hosted := by
  obtain ⟨m, hm, hb⟩ := Mount.exists_ofSource_split h.toIsMountable
  exact ⟨m, hm, hb, Mount.hosted_base_of_split h.toHosted hm⟩

/-- Trimming blanks only takes away from what stands behind the origin. -/
theorem trimBlanks_render : trimBlanks u.render = u.origin ++ trimEnd isBlank u.rest := by
  have horigin : ∀ c, u.origin.getLast? = some c → isBlank c = false := by
    rw [getLast?_origin h.authority_ne_nil]
    exact h.isBlank_of_getLast?
  rw [trimBlanks, trim, h.render_eq, dropWhile_isBlank_origin h.toIsOrigin, trimEnd_append horigin]

/-- Writing a station and reading it again keeps the origin. -/
theorem exists_reread : ∃ v, readUri uriArgument (some (.text u.render)) = .ok v ∧
    v.scheme = u.scheme ∧ v.authority = u.authority ∧ IsRooted v.path := by
  have hrest : Authority.IsRest (trimEnd isBlank u.rest) :=
    h.isRest_rest.of_isPrefix (List.rdropWhile_prefix isBlank u.rest)
  have hs := split_origin_append h.toIsOrigin hrest
  rw [← h.trimBlanks_render] at hs
  exact ⟨_, readUri_eq_ok_iff.mpr hs, rfl, rfl, isRooted_withRest hrest.filter⟩

/-- A local step from a station succeeds and leads to a rooted path at the same origin. -/
theorem exists_apply {step : Step} (hstep : step.IsLocal) : ∃ v, step.apply u = .ok v ∧
    v.scheme = u.scheme ∧ v.authority = u.authority ∧ IsRooted v.path := by
  obtain ⟨m, hm, hbase, hhosted⟩ := h.exists_mount
  have hscheme : m.scheme = u.scheme := congrArg scheme hbase
  have hauthority : m.authority = u.authority := congrArg authority hbase
  cases step with
  | append segments =>
    exact ⟨u.append segments, rfl, u.append_scheme segments, u.append_authority segments,
      (h.toHosted.append segments).path_isRooted⟩
  | resolve reference =>
    obtain ⟨t, r, rfl, hr⟩ := hstep
    obtain ⟨v, hv, hs, ha, hp⟩ := hhosted.exists_resolve hr
    refine ⟨v, ?_, hs.trans hscheme, ha.trans hauthority, hp⟩
    simp only [Step.apply, hm, bind, Except.bind, Mount.resolve?, Error.require, Mount.resolve, hv,
      Error.ofSplit]
  | follow reference =>
    obtain ⟨r, hr⟩ := hstep
    obtain ⟨v, hv, hs⟩ := h.toHosted.exists_resolve hr
    exact ⟨v, by simp only [Step.apply, hv, Error.ofSplit], hs⟩
  | mount =>
    obtain ⟨v, hv, hs, ha, hp⟩ := Mount.exists_uri hhosted
    refine ⟨v, ?_, hs.trans hscheme, ha.trans hauthority, hp⟩
    simp only [Step.apply, hm, bind, Except.bind, hv, Error.ofSplit]
  | reread => exact h.exists_reread
  | path extra =>
    obtain ⟨t, rfl⟩ := Option.isSome_iff_exists.mp hstep
    refine ⟨{ u with path := m.path t }, ?_, rfl, rfl, Mount.isRooted_path hhosted t⟩
    simp only [Step.apply, hm, bind, Except.bind, Mount.path?, Error.require, Except.map, pure,
      Except.pure]

/-- A walk of local steps from a station never fails and never leaves the origin. -/
theorem exists_walk {steps : List Step} (hsteps : ∀ step ∈ steps, step.IsLocal) :
    ∃ states : List Uri, walk u steps = states.map .ok ∧
      ∀ v ∈ states, v.scheme = u.scheme ∧ v.authority = u.authority := by
  induction steps generalizing u with
  | nil => exact ⟨[], rfl, fun v hv => absurd hv List.not_mem_nil⟩
  | cons step steps ih =>
    obtain ⟨v, hv, hs, ha, hp⟩ := h.exists_apply (hsteps step (List.mem_cons_self ..))
    obtain ⟨states, hwalk, hall⟩ := ih (h.of_origin hs ha hp)
      fun step hm => hsteps step (List.mem_cons_of_mem _ hm)
    refine ⟨v :: states, ?_, ?_⟩
    · simp only [walk, hv, hwalk, List.map_cons]
    · intro w hw
      rcases List.mem_cons.mp hw with rfl | hw
      · exact ⟨hs, ha⟩
      · obtain ⟨hws, hwa⟩ := hall w hw
        exact ⟨hws.trans hs, hwa.trans ha⟩

end Uri.IsStation

/-- A walk that starts at a written base of a mount and takes local steps, of any kind
and in any order, never fails and keeps the scheme and the authority of its start. -/
theorem walk_keeps_origin {written : Text} {u : Uri}
    (hmount : (Mount.ofSource (some (.text written))).isOk)
    (hread : readUri uriArgument (some (.text written)) = .ok u)
    (hblank : ∀ c, u.authority.getLast? = some c → isBlank c = false)
    {steps : List Step} (hsteps : ∀ step ∈ steps, step.IsLocal) :
    ∃ states : List Uri, walk u steps = states.map .ok ∧
      ∀ v ∈ states, v.scheme = u.scheme ∧ v.authority = u.authority := by
  have hu := readUri_eq_ok_iff.mp hread
  cases hm : Mount.ofSource (some (.text written)) with
  | error e =>
    rw [hm] at hmount
    cases hmount
  | ok m =>
    obtain ⟨v, hv, hmountable, _⟩ := Mount.ofSource_eq_ok_iff.mp hm
    obtain rfl : v = u := Except.ok.inj (hv.symm.trans hu)
    have hwritten : (Source.text written).IsWritten := trivial
    have hhosted : v.Hosted :=
      hwritten.hosted hu (Authority.ne_nil_of_host?_isSome hmountable.host_isSome)
    have hstation : v.IsStation := { hhosted, hmountable with isBlank_of_getLast? := hblank }
    exact hstation.exists_walk hsteps

/-- A walk over steps of every kind, some of which put marks into the path. -/
theorem walk_keeps_origin_through_marks :
    ∃ u, (Mount.ofSource (some (.text "Ws://u@H:1/a".toList))).isOk ∧
      readUri uriArgument (some (.text "Ws://u@H:1/a".toList)) = .ok u ∧
      ∃ states : List Uri,
        walk u [.append [some "//x?y#\t".toList, none], .follow "../..;p".toList, .mount,
          .resolve (some "?q".toList), .path (some "b//c?#".toList), .reread] = states.map .ok ∧
        ∀ v ∈ states, v.scheme = u.scheme ∧ v.authority = u.authority := by
  have hmount : (Mount.ofSource (some (.text "Ws://u@H:1/a".toList))).isOk := by rfl
  have hread : readUri uriArgument (some (.text "Ws://u@H:1/a".toList)) =
      .ok ⟨"ws".toList, "u@H:1".toList, "/a".toList, [], []⟩ := by rfl
  refine ⟨_, hmount, hread, walk_keeps_origin hmount hread ?_ ?_⟩
  · rintro c hc
    cases hc
    decide
  · simp only [List.forall_mem_cons, List.not_mem_nil, false_implies, implies_true, and_true]
    exact ⟨trivial, ⟨⟨[], [], "../..;p".toList, [], []⟩, by rfl, rfl, rfl⟩, trivial,
      ⟨"?q".toList, ⟨[], [], [], "q".toList, []⟩, rfl, by rfl, rfl, rfl⟩, rfl, trivial⟩

end UriMount
