/-
  DeviceMail — identifiers do not repeat.

  Numbered sources with different stems are drawn from in any order, one
  identifier at a time or two for a new message.

  * `NumberedIds.nth_inj`: an identifier tells its stem and its number;
  * `Step.demand` is how many identifiers a step takes from a source,
    `Moment.handedOut` which ones, by the answer to it;
  * `Issued` says of sources that they have these stems and have handed out so
    many identifiers; `issued_step`: they keep count;
  * `handedOut_step`: a step hands out the next numbers of a source;
  * `issued_run`: over a run sources keep count, and each hands out its numbers
    one after the other;
  * `identifiers_never_repeat` concludes for all sources together.
-/
import DeviceMail.Proofs.Cuts
import DeviceMail.Proofs.Moments
import DeviceMail.Proofs.Numerals

namespace DeviceMail

/-! ## Stems and numbers -/

namespace NumberedIds

theorem toList_nth (stem : String) (n : Nat) :
    (nth stem n).toList = stem.toList ++ '-' :: Decimal.digits n := by
  simp [nth, Decimal.text]

/-- **An identifier tells its stem and its number**, whatever dashes and digits
    stand in the stem. -/
theorem nth_inj {stem other : String} {k l : Nat} :
    nth stem k = nth other l ↔ stem = other ∧ k = l := by
  constructor
  · intro h
    have hdigit (n : Nat) : ∀ c ∈ (Decimal.digits n).reverse, c.isDigit :=
      fun c hc => Decimal.isDigit_of_mem_digits c (List.mem_reverse.1 hc)
    have hdash (s : List Char) : ∀ c ∈ ('-' :: s).head?, c.isDigit = false := by simp
    have hreverse : (Decimal.digits k).reverse ++ '-' :: stem.toList.reverse =
        (Decimal.digits l).reverse ++ '-' :: other.toList.reverse := by
      simpa [toList_nth] using congrArg (fun id => id.toList.reverse) h
    -- no digit is a dash, so the number is what stands behind the last one
    obtain ⟨hdigits, hstem⟩ :=
      Text.append_inj_of_kind (hdigit k) (hdash _) (hdigit l) (hdash _) hreverse
    exact ⟨String.toList_inj.1 (List.reverse_inj.1 (List.cons.inj hstem).2),
      Decimal.digits_inj.1 (List.reverse_inj.1 hdigits)⟩
  · rintro ⟨rfl, rfl⟩
    rfl

end NumberedIds

/-! ## Drawing from a source -/

/-- The numbered source that has handed out `n` identifiers. -/
def IdSource.issued (stem : String) (n : Nat) : IdSource := .numbered ⟨stem, .ofNat n⟩

theorem IdSource.draw_issued {stem : String} {n : Nat} (h : n + 1 < 2 ^ 64) (fresh : String) :
    (issued stem n).draw fresh = (NumberedIds.nth stem (n + 1), issued stem (n + 1)) := by
  have hnext : UInt64.ofNat n + 1 = .ofNat (n + 1) := (UInt64.ofNat_add n 1).symm
  have hexact : (UInt64.ofNat (n + 1)).toNat = n + 1 := UInt64.toNat_ofNat_of_lt' h
  simp only [issued, draw, NumberedIds.draw, hnext, hexact]

theorem IdSource.drawPair_issued {stem : String} {n : Nat} (h : n + 2 < 2 ^ 64) (fresh : IdPair) :
    (issued stem n).drawPair fresh =
      (⟨NumberedIds.nth stem (n + 1), NumberedIds.nth stem (n + 2)⟩, issued stem (n + 2)) := by
  simp only [drawPair, draw_issued (show n + 1 < 2 ^ 64 by omega), draw_issued h]

/-- How many identifiers a step takes from the source under a name. -/
def Step.demand (name : String) : Step → Nat
  | .drawId source _ => if source = name then 1 else 0
  | .make _ _ (some source) _ => if source = name then 2 else 0
  | _ => 0

/-- How many identifiers steps take from the source under a name. -/
def demandOf (name : String) (steps : List Step) : Nat := (steps.map (·.demand name)).sum

theorem demandOf_append (name : String) (before after : List Step) :
    demandOf name (before ++ after) = demandOf name before + demandOf name after := by
  simp [demandOf]

/-- The identifiers that a step hands out, each after the name of its source:
    the one that is answered, or those of the message that is made. -/
def Moment.handedOut (t : Moment) : List (String × String) :=
  match t.step, t.answer with
  | .drawId name _, .ok (.id id) => [(name, id)]
  | .make _ _ (some name) _, .ok (.message m) => [(name, m.messageId), (name, m.correlationId)]
  | _, _ => []

/-- The identifiers that steps hand out from the source under a name, in order. -/
def handedOutFrom (name : String) (moments : List Moment) : List String :=
  ((moments.flatMap Moment.handedOut).filter (·.1 = name)).map (·.2)

/-- The `n` identifiers with the given stems that follow those counted. -/
def nextIds (stems : String → Option String) (counts : String → Nat) (name : String) (n : Nat) :
    List String :=
  (stems name).toList.flatMap fun stem =>
    (List.range' (counts name + 1) n).map (NumberedIds.nth stem)

theorem nextIds_zero (stems : String → Option String) (counts : String → Nat) (name : String) :
    nextIds stems counts name 0 = [] := by
  simp [nextIds]

theorem nextIds_add (stems : String → Option String) (counts taken : String → Nat) (name : String)
    (n : Nat) :
    nextIds stems counts name (taken name + n) =
      nextIds stems counts name (taken name) ++
        nextIds stems (fun other => counts other + taken other) name n := by
  have hrange : List.range' (counts name + 1) (taken name + n) =
      List.range' (counts name + 1) (taken name) ++
        List.range' (counts name + taken name + 1) n := by
    rw [← List.range'_append_1]
    congr 2
    omega
  cases hstem : stems name with
  | none => simp [nextIds, hstem]
  | some stem => simp [nextIds, hstem, hrange]

theorem filter_labelled (source name : String) (ids : List String) :
    ((ids.map (source, ·)).filter (·.1 = name)).map (·.2) = if source = name then ids else [] := by
  split_ifs with hname
  · rw [List.filter_eq_self.2, List.map_map]
    · exact List.map_id _
    · intro labelled hmem
      obtain ⟨id, -, rfl⟩ := List.mem_map.1 hmem
      exact decide_eq_true hname
  · rw [List.filter_eq_nil_iff.2, List.map_nil]
    intro labelled hmem
    obtain ⟨id, -, rfl⟩ := List.mem_map.1 hmem
    simpa using hname

/-! ## Keeping count -/

/-- The sources are numbered and have these stems, and each has handed out so
    many identifiers. -/
def Issued (stems : String → Option String) (counts : String → Nat) (sources : Slots IdSource) :
    Prop :=
  ∀ name, sources.get? name = (stems name).map fun stem => .issued stem (counts name)

section
variable {stems : String → Option String} {counts : String → Nat} {sources : Slots IdSource}
  (h : Issued stems counts sources)
include h

theorem Issued.put {source stem : String} (hstem : stems source = some stem) (n : Nat) :
    Issued stems (fun name => counts name + if source = name then n else 0)
      (sources.put source (.issued stem (counts source + n))) := by
  intro name
  show _ = (stems name).map fun stem =>
    IdSource.issued stem (counts name + if source = name then n else 0)
  by_cases hname : name = source
  · subst hname
    rw [Slots.get?_put_self, if_pos rfl, hstem]
    rfl
  · rw [Slots.get?_put_of_ne _ hname, if_neg (Ne.symm hname)]
    exact h name

theorem Issued.absent {source : String} (hstem : stems source = none) (n : Nat) :
    Issued stems (fun name => counts name + if source = name then n else 0) sources := by
  intro name
  simp only [h name]
  by_cases hname : source = name
  · rw [← hname, hstem]
    rfl
  · rw [if_neg hname]
    rfl

end

namespace Session

section
variable {stems : String → Option String} {counts : String → Nat} {s : Session}
  (h : Issued stems counts s.sources)
include h

theorem get?_of_stem {name stem : String} (hstem : stems name = some stem) :
    s.sources.get? name = some (.issued stem (counts name)) := by
  rw [h name, hstem]
  rfl

theorem step_drawId {name stem : String} (hstem : stems name = some stem)
    (hbound : counts name + 1 < 2 ^ 64) (fresh : String) :
    s.step (.drawId name fresh) =
      ({ s with sources := s.sources.put name (.issued stem (counts name + 1)) },
        .ok (.id (NumberedIds.nth stem (counts name + 1)))) := by
  rw [step, withSource_of_get? (get?_of_stem h hstem)]
  simp only [IdSource.draw_issued hbound]

/-- A new message has two identifiers: its own, and the next one, by which it is
    correlated. -/
theorem step_make {name stem : String} (hstem : stems name = some stem)
    (hbound : counts name + 2 < 2 ^ 64) (slot : String) (content : Content) (fresh : IdPair) :
    s.step (.make slot content (some name) fresh) =
      { s with sources := s.sources.put name (.issued stem (counts name + 2)) }.store slot
        (.make content ⟨NumberedIds.nth stem (counts name + 1),
          NumberedIds.nth stem (counts name + 2)⟩) := by
  rw [step, withSource_of_get? (get?_of_stem h hstem)]
  simp only [IdSource.drawPair_issued hbound]

/-- **Sources keep count.** -/
theorem issued_step {a : Step} (ha : ∀ name source, a ≠ .addSource name source)
    (hbound : ∀ name stem, stems name = some stem → counts name + a.demand name < 2 ^ 64) :
    Issued stems (fun name => counts name + a.demand name) (s.step a).1.sources := by
  cases a with
  | addSource name source => exact absurd rfl (ha name source)
  | drawId name fresh =>
    rcases hstem : stems name with _ | stem
    · rw [step, withSource_of_none (by rw [h name, hstem]; rfl)]
      exact h.absent hstem 1
    · rw [step_drawId h hstem (by simpa [Step.demand] using hbound name stem hstem)]
      exact h.put hstem 1
  | make slot content source fresh =>
    cases source with
    | none => exact h
    | some name =>
      rcases hstem : stems name with _ | stem
      · rw [step, withSource_of_none (by rw [h name, hstem]; rfl)]
        exact h.absent hstem 2
      · rw [step_make h hstem (by simpa [Step.demand] using hbound name stem hstem)]
        exact h.put hstem 2
  | _ =>
    rw [step_eq_touched]
    exact h

theorem handedOut_drawId {source : String}
    (hbound : ∀ stem, stems source = some stem → counts source + 1 < 2 ^ 64) (fresh : String) :
    Moment.handedOut ⟨s, .drawId source fresh⟩ =
      (nextIds stems counts source 1).map (source, ·) := by
  rcases hstem : stems source with _ | stem
  · have hanswer : (s.step (.drawId source fresh)).2 = .error (.noSuchSource source) := by
      rw [step, withSource_of_none (by rw [h source, hstem]; rfl)]
      rfl
    simp only [Moment.handedOut, Moment.answer, hanswer, nextIds, hstem]
    rfl
  · simp only [Moment.handedOut, Moment.answer, step_drawId h hstem (hbound stem hstem), nextIds,
      hstem]
    rfl

theorem handedOut_make {source : String}
    (hbound : ∀ stem, stems source = some stem → counts source + 2 < 2 ^ 64) (slot : String)
    (content : Content) (fresh : IdPair) :
    Moment.handedOut ⟨s, .make slot content (some source) fresh⟩ =
      (nextIds stems counts source 2).map (source, ·) := by
  rcases hstem : stems source with _ | stem
  · have hanswer :
        (s.step (.make slot content (some source) fresh)).2 = .error (.noSuchSource source) := by
      rw [step, withSource_of_none (by rw [h source, hstem]; rfl)]
      rfl
    simp only [Moment.handedOut, Moment.answer, hanswer, nextIds, hstem]
    rfl
  · simp only [Moment.handedOut, Moment.answer, step_make h hstem (hbound stem hstem), nextIds,
      hstem]
    cases content <;> rfl

/-- **A step hands out the next numbers of the source that it draws from.** -/
theorem handedOut_step {a : Step}
    (hbound : ∀ name stem, stems name = some stem → counts name + a.demand name < 2 ^ 64)
    (name : String) :
    handedOutFrom name [⟨s, a⟩] = nextIds stems counts name (a.demand name) := by
  rw [handedOutFrom, List.flatMap_singleton]
  cases a with
  | drawId source fresh =>
    rw [handedOut_drawId h (by simpa [Step.demand] using hbound source), filter_labelled,
      Step.demand]
    split_ifs with hname
    · rw [hname]
    · rw [nextIds_zero]
  | make slot content source fresh =>
    cases source with
    | none => exact (nextIds_zero stems counts name).symm
    | some source =>
      rw [handedOut_make h (by simpa [Step.demand] using hbound source), filter_labelled,
        Step.demand]
      split_ifs with hname
      · rw [hname]
      · rw [nextIds_zero]
  | _ => exact (nextIds_zero stems counts name).symm

end

/-! ## Whole runs -/

theorem handedOutFrom_cons (name : String) (t : Moment) (rest : List Moment) :
    handedOutFrom name (t :: rest) = handedOutFrom name [t] ++ handedOutFrom name rest := by
  simp [handedOutFrom]

/-- **Over a run sources keep count, and each hands out its numbers one after the
    other.** -/
theorem issued_run {stems : String → Option String} {counts : String → Nat} {s : Session}
    (h : Issued stems counts s.sources) {steps : List Step}
    (hsteps : ∀ name source, .addSource name source ∉ steps)
    (hbound : ∀ name stem, stems name = some stem → counts name + demandOf name steps < 2 ^ 64) :
    Issued stems (fun name => counts name + demandOf name steps) (s.run steps).1.sources ∧
    ∀ name, handedOutFrom name (s.moments steps) =
      nextIds stems counts name (demandOf name steps) := by
  induction steps generalizing s counts with
  | nil => exact ⟨h, fun name => (nextIds_zero stems counts name).symm⟩
  | cons a rest ih =>
    have hsum (name : String) : demandOf name (a :: rest) = a.demand name + demandOf name rest :=
      rfl
    -- the rest of the run goes on from the counts after the first step
    simp only [hsum, ← Nat.add_assoc] at hbound ⊢
    have hone (name stem : String) (hstem : stems name = some stem) :
        counts name + a.demand name < 2 ^ 64 :=
      Nat.lt_of_le_of_lt (Nat.le_add_right _ _) (hbound name stem hstem)
    have hfirst : Issued stems (fun name => counts name + a.demand name) (s.step a).1.sources :=
      issued_step h (fun name source ha => hsteps name source (ha ▸ List.mem_cons_self)) hone
    obtain ⟨hcounts, hids⟩ :=
      ih hfirst (fun name source hmem => hsteps name source (List.mem_cons_of_mem a hmem)) hbound
    refine ⟨hcounts, fun name => ?_⟩
    rw [moments_cons, handedOutFrom_cons, handedOut_step h hone, hids]
    exact (nextIds_add stems counts (a.demand ·) name (demandOf name rest)).symm

/-! ## All sources together -/

/-- Labelled values do not repeat if those with one label do not, and no value
    has two labels. -/
theorem nodup_of_labelled {labelled : List (String × String)}
    (heach : ∀ name, ((labelled.filter (·.1 = name)).map (·.2)).Nodup)
    (hlabel : ∀ x ∈ labelled, ∀ y ∈ labelled, x.2 = y.2 → x.1 = y.1) :
    (labelled.map (·.2)).Nodup := by
  induction labelled with
  | nil => exact List.nodup_nil
  | cons x rest ih =>
    rw [List.map_cons, List.nodup_cons]
    constructor
    · -- a value that comes again has the same label, under which it then stands twice
      intro hmem
      obtain ⟨y, hy, hxy⟩ := List.mem_map.1 hmem
      have hname : y.1 = x.1 :=
        hlabel y (List.mem_cons_of_mem x hy) x List.mem_cons_self hxy
      have hx := heach x.1
      rw [List.filter_cons_of_pos (by simp), List.map_cons, List.nodup_cons] at hx
      exact hx.1 (List.mem_map.2 ⟨y, List.mem_filter.2 ⟨hy, decide_eq_true hname⟩, hxy⟩)
    · refine ih (fun name => ?_) fun y hy z hz => ?_
      · exact (((List.sublist_cons_self x rest).filter _).map _).nodup (heach name)
      · exact hlabel y (List.mem_cons_of_mem x hy) z (List.mem_cons_of_mem x hz)

section
variable {stems : String → Option String} {counts : String → Nat}

theorem nextIds_nodup (name : String) (n : Nat) : (nextIds stems counts name n).Nodup := by
  cases hstem : stems name with
  | none => simp [nextIds, hstem]
  | some stem =>
    simp only [nextIds, hstem, Option.toList_some, List.flatMap_singleton]
    exact List.Nodup.map (fun k l hkl => (NumberedIds.nth_inj.1 hkl).2) List.nodup_range'

/-- Names with different stems have no identifier in common. -/
theorem name_eq_of_mem_nextIds
    (hstems : ∀ name other stem, stems name = some stem → stems other = some stem → name = other)
    {name other id : String} {n k : Nat} (hid : id ∈ nextIds stems counts name n)
    (hid' : id ∈ nextIds stems counts other k) : name = other := by
  simp only [nextIds, List.mem_flatMap, Option.mem_toList, List.mem_map] at hid hid'
  obtain ⟨stem, hstem, i, -, rfl⟩ := hid
  obtain ⟨stem', hstem', j, -, heq⟩ := hid'
  obtain ⟨rfl, -⟩ := NumberedIds.nth_inj.1 heq
  exact hstems name other _ hstem hstem'

end

/-- **Numbered identifiers never repeat.**  Take sources with different stems that
    have handed out nothing yet, and let steps draw from each fewer than `2 ^ 64`
    identifiers, in any order, one at a time or two for a new message.  Then all
    that they hand out are different.  Each source hands out its numbers one
    after the other, beginning with 1, and it counts them exactly at all times;
    a new message gets the next two, its own identifier first. -/
theorem identifiers_never_repeat {stems : String → Option String} {s : Session} {steps : List Step}
    (hsources : ∀ name, s.sources.get? name = (stems name).map fun stem => .numbered { stem })
    (hstems : ∀ name other stem, stems name = some stem → stems other = some stem → name = other)
    (hsteps : ∀ name source, .addSource name source ∉ steps)
    (hbound : ∀ name stem, stems name = some stem → demandOf name steps < 2 ^ 64) :
    (((s.moments steps).flatMap Moment.handedOut).map (·.2)).Nodup ∧
    ∀ name stem, stems name = some stem →
      handedOutFrom name (s.moments steps) =
        (List.range' 1 (demandOf name steps)).map (fun k => stem ++ "-" ++ Decimal.text k) ∧
      (∀ before after, steps = before ++ after → ∃ ids : NumberedIds,
        (s.run before).1.sources.get? name = some (.numbered ids) ∧ ids.stem = stem ∧
          ids.issued.toNat = demandOf name before) ∧
      ∀ before slot content fresh after,
        steps = before ++ .make slot content (some name) fresh :: after →
          let n := demandOf name before
          let m := Message.make content
            ⟨stem ++ "-" ++ Decimal.text (n + 1), stem ++ "-" ++ Decimal.text (n + 2)⟩
          let outcome := (s.run before).1.step (.make slot content (some name) fresh)
          outcome.2 = .ok (.message m) ∧ outcome.1.messages.get? slot = some m := by
  have h : Issued stems (fun _ => 0) s.sources := hsources
  have hpart {before after : List Step} (hsplit : steps = before ++ after) {name stem : String}
      (hstem : stems name = some stem) : demandOf name before + demandOf name after < 2 ^ 64 := by
    rw [← demandOf_append, ← hsplit]
    exact hbound name stem hstem
  have hissued {before after : List Step} (hsplit : steps = before ++ after) :
      Issued stems (demandOf · before) (s.run before).1.sources := by
    have hadd (name : String) (source : IdSource) : .addSource name source ∉ before := fun hmem =>
      hsteps name source (hsplit ▸ List.mem_append_left after hmem)
    have hbefore (name stem : String) (hstem : stems name = some stem) :
        0 + demandOf name before < 2 ^ 64 := by
      have := hpart hsplit hstem
      omega
    simpa only [Nat.zero_add] using (issued_run h hadd hbefore).1
  have hids (name : String) :
      handedOutFrom name (s.moments steps) =
        nextIds stems (fun _ => 0) name (demandOf name steps) :=
    (issued_run h hsteps (by simpa only [Nat.zero_add] using hbound)).2 name
  refine ⟨?_, fun name stem hstem => ⟨?_, fun before after hsplit => ?_, ?_⟩⟩
  · have hmem {x : String × String} (hx : x ∈ (s.moments steps).flatMap Moment.handedOut) :
        x.2 ∈ nextIds stems (fun _ => 0) x.1 (demandOf x.1 steps) := by
      rw [← hids x.1]
      exact List.mem_map.2 ⟨x, List.mem_filter.2 ⟨hx, decide_eq_true rfl⟩, rfl⟩
    refine nodup_of_labelled (fun name => ?_) fun x hx y hy hxy => ?_
    · have hname := hids name
      rw [handedOutFrom] at hname
      rw [hname]
      exact nextIds_nodup name _
    · exact name_eq_of_mem_nextIds hstems (hmem hx) (hxy ▸ hmem hy)
  · rw [hids, nextIds, hstem, Option.toList_some, List.flatMap_singleton]
    rfl
  · refine ⟨⟨stem, .ofNat (demandOf name before)⟩, get?_of_stem (hissued hsplit) hstem, rfl, ?_⟩
    exact UInt64.toNat_ofNat_of_lt' (Nat.lt_of_le_of_lt (Nat.le_add_right _ _) (hpart hsplit hstem))
  · intro before slot content fresh after hsplit
    have htwo : demandOf name before + 2 < 2 ^ 64 := by
      have := hpart hsplit hstem
      simp only [demandOf, List.map_cons, List.sum_cons, Step.demand, if_pos] at this ⊢
      omega
    rw [step_make (hissued hsplit) hstem htwo]
    exact ⟨rfl, Slots.get?_put_self _ _ _⟩

/-- The stem of one source looks like an identifier of the other. -/
theorem identifiers_never_repeat_of_like_stems :
    let s : Session :=
      { sources := (Slots.empty.put "x" (.numbered { stem := "a" })).put "y"
          (.numbered { stem := "a-1" }) }
    let fresh : IdPair := ⟨"", ""⟩
    let steps : List Step :=
      [.drawId "x" "", .make "m" (.text "hello") (some "y") fresh, .drawId "x" "",
        .copy "m" "n", .make "n" .absent (some "x") fresh, .drawId "y" ""]
    (((s.moments steps).flatMap Moment.handedOut).map (·.2)).Nodup ∧
      handedOutFrom "x" (s.moments steps) = ["a-1", "a-2", "a-3", "a-4"] ∧
      handedOutFrom "y" (s.moments steps) = ["a-1-1", "a-1-2", "a-1-3"] := by
  intro s fresh steps
  let stems (name : String) : Option String :=
    if name = "y" then some "a-1" else if name = "x" then some "a" else none
  have hsources (name : String) :
      s.sources.get? name = (stems name).map fun stem => .numbered { stem } := by
    simp only [s, stems, Slots.get?_put, Slots.get?_empty]
    split_ifs <;> rfl
  have hstems (name other stem : String) (hname : stems name = some stem)
      (hother : stems other = some stem) : name = other := by
    simp only [stems] at hname hother
    by_cases hy : name = "y" <;> by_cases hy' : other = "y" <;>
      simp only [hy, hy', if_true, if_false] at hname hother ⊢
    · exact absurd (hname.trans hother.symm) (by split_ifs <;> decide)
    · exact absurd (hother.trans hname.symm) (by split_ifs <;> decide)
    · split_ifs at hname hother with hx hx'
      exact hx.trans hx'.symm
  have hbound (name stem : String) (_ : stems name = some stem) : demandOf name steps < 2 ^ 64 := by
    simp only [steps, demandOf, Step.demand, List.map_cons, List.map_nil, List.sum_cons,
      List.sum_nil]
    split_ifs <;> omega
  obtain ⟨hnodup, heach⟩ := identifiers_never_repeat hsources hstems (by simp [steps]) hbound
  exact ⟨hnodup, (heach "x" "a" rfl).1.trans (by decide), (heach "y" "a-1" rfl).1.trans (by decide)⟩

end Session

end DeviceMail
