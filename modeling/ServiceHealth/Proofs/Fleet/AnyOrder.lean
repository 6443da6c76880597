import Mathlib.Logic.Function.Basic
import ServiceHealth.Proofs.Fleet.Going
import ServiceHealth.Proofs.Fleet.Untimed

/-!
# Answers in any order

Probes of a round are answered in an order that depends on the pool and on how long each of them
takes. Apart from the time nothing comes of that: no instance is on the list of a round twice, and
answers of different instances commute. So rounds that only send probes and take in answers do what
is done by probing one instance after the other, in the order of the ids.
-/
namespace ServiceHealth

def Fleet.entries (f : Fleet) (id : String) : Fleet.Entry := (f.entry id).untimed

theorem Fleet.catalog_applyOutcome (f : Fleet) (now : Timestamp) (i : Instance)
    (outcome : Probe.Outcome) : (f.applyOutcome now i outcome).2.catalog = f.catalog := by
  simp only [applyOutcome]
  split
  · rfl
  · dsimp only
    split <;> rfl

namespace Round

/-- Counts a probe that is sent and answered. -/
def Summary.book (s : Summary) (applied : Option Applied) : Summary :=
  { s with dispatched := s.dispatched + 1 }.count applied

theorem Summary.book_comm (s : Summary) (a b : Option Applied) :
    (s.book a).book b = (s.book b).book a := by
  cases a <;> cases b <;> simp [book, count, Nat.add_right_comm]

theorem Summary.book_untimed (s : Summary) (a : Option Applied) :
    s.book (a.map Applied.untimed) = s.book a := by
  cases a <;> rfl

/-- What answers come to: the entries apart from the time, and the summary. -/
structure Account where
  entries : String → Fleet.Entry
  summary : Summary

namespace Account

def take (t : Thresholds) (outcome : String → Probe.Outcome) (a : Account) (i : Instance) :
    Account :=
  let answer := (a.entries i.serviceId).applyOutcome t ⟨0⟩ i (outcome i.serviceId)
  ⟨Function.update a.entries i.serviceId answer.2, a.summary.book answer.1⟩

/-- Answers of different instances commute. -/
theorem take_comm (t : Thresholds) (outcome : String → Probe.Outcome) (a : Account)
    {i j : Instance} (h : i.serviceId ≠ j.serviceId) :
    (a.take t outcome i).take t outcome j = (a.take t outcome j).take t outcome i := by
  simp only [take, Function.update_of_ne h, Function.update_of_ne h.symm, Function.update_comm h]
  rw [Summary.book_comm]

/-- Where no id stands twice the order does not matter. -/
theorem foldl_take_of_perm (t : Thresholds) (outcome : String → Probe.Outcome)
    {done all : List Instance} (hperm : done.Perm all)
    (hall : all.Pairwise (·.serviceId ≠ ·.serviceId)) (a : Account) :
    done.foldl (take t outcome) a = all.foldl (take t outcome) a := by
  refine hperm.foldl_eq' (fun i hi j hj a => ?_) a
  by_cases hid : i.serviceId = j.serviceId
  · have hfirst := find?_of_distinct hall (hperm.subset hi)
    have hsecond := find?_of_distinct hall (hperm.subset hj)
    obtain rfl : i = j := Option.some.inj (hfirst.symm.trans (hid ▸ hsecond))
    rfl
  · exact take_comm t outcome a hid

theorem mk_applyOutcome {f : Fleet} (hf : f.catalog.Keyed) (now : Timestamp) (i : Instance)
    (outcome : String → Probe.Outcome) (s : Summary) :
    (⟨(f.applyOutcome now i (outcome i.serviceId)).2.entries,
      s.book (f.applyOutcome now i (outcome i.serviceId)).1⟩ : Account) =
        take f.standings.thresholds outcome ⟨f.entries, s⟩ i := by
  have hentry (id : String) :=
    Fleet.applyOutcome_entry now id hf i (outcome i.serviceId)
  simp only [take, Fleet.entries, Fleet.Entry.applyOutcome_untimed _ now, Summary.book_untimed,
    (hentry i.serviceId).1, mk.injEq, and_true]
  funext id
  rw [Fleet.entries, (hentry id).2, Function.update_apply]
  split
  · subst id
    rfl
  · rfl

end Account

/-- The answers of each instance are counted as they come in. -/
def Step.hear (said : String → Nat) : Step → String → Nat
  | .answer id _ => Function.update said id (said id + 1)
  | _ => said

/-- A step that sends a probe, or takes in the next answer that a prober has for an instance. -/
def Step.IsQuiet (prober : String → Nat → Probe.Outcome) (said : String → Nat) : Step → Prop
  | .dispatch => True
  | .answer id outcome => outcome = prober id (said id)
  | _ => False

/-- Steps that send probes and take in answers. The prober decides on each answer from the id and
the number of answers that were given under it before. -/
def Obeys (prober : String → Nat → Probe.Outcome) :
    (String → Nat) → List (Timestamp × Step) → Prop
  | _, [] => True
  | said, (_, s) :: rest => s.IsQuiet prober said ∧ Obeys prober (s.hear said) rest

/-- The answers given after some steps. -/
def heard (said : String → Nat) (steps : List (Timestamp × Step)) : String → Nat :=
  steps.foldl (fun said s => s.2.hear said) said

theorem obeys_append {prober : String → Nat → Probe.Outcome} {said : String → Nat}
    {first second : List (Timestamp × Step)} : Obeys prober said (first ++ second) ↔
      Obeys prober said first ∧ Obeys prober (heard said first) second := by
  induction first generalizing said with
  | nil => simp [Obeys, heard]
  | cons s rest ih =>
    simp only [List.cons_append, Obeys, ih, and_assoc]
    rfl

/-- A round over a fleet with some of its answers taken in, while each instance on the list has
given so many answers before. -/
structure Underway (prober : String → Nat → Probe.Outcome) (n : Nat) (start : Fleet)
    (said : String → Nat) (done : List Instance) (r : Round) (f : Fleet) : Prop where
  catalog : f.catalog = start.catalog
  thresholds : f.standings.thresholds = start.standings.thresholds
  parts : (done ++ (r.flying ++ r.waiting)).Perm start.catalog.active
  answered : ∀ i ∈ done, said i.serviceId = n + 1
  missing : ∀ i ∈ r.flying ++ r.waiting, said i.serviceId = n
  -- The summary is ahead by the probes that are under way.
  account : ∃ s : Summary,
    r.summary = { s with dispatched := s.dispatched + r.flying.length } ∧
    (⟨f.entries, s⟩ : Account) = done.foldl
      (Account.take start.standings.thresholds fun id => prober id n)
      ⟨start.entries, (ofFleet start).summary⟩

section Underway

variable {prober : String → Nat → Probe.Outcome} {n : Nat} {start f f' : Fleet}
  {said : String → Nat} {done : List Instance} {r next : Round} {pool : Nat}

theorem underway_ofFleet (hsaid : ∀ i ∈ start.catalog.active, said i.serviceId = n) :
    Underway prober n start said [] (ofFleet start) start where
  catalog := rfl
  thresholds := rfl
  parts := .refl _
  answered := by simp
  missing := hsaid
  account := ⟨(ofFleet start).summary, rfl, rfl⟩

theorem Underway.dispatch (h : Underway prober n start said done r f) {i : Instance}
    (hd : r.dispatch? pool = some (i, next)) : Underway prober n start said done next f := by
  obtain ⟨hwaiting, -, hnext⟩ := dispatch?_eq_some hd
  have hleft : next.flying ++ next.waiting = r.flying ++ r.waiting := by
    rw [hwaiting, hnext, List.append_assoc]
    rfl
  obtain ⟨s, hsummary, haccount⟩ := h.account
  refine ⟨h.catalog, h.thresholds, ?_, h.answered, ?_, s, ?_, haccount⟩
  · rw [hleft]
    exact h.parts
  · rw [hleft]
    exact h.missing
  · rw [hnext, hsummary, List.length_append]
    rfl

theorem Underway.answer (h : Underway prober n start said done r f) (hkeyed : start.catalog.Keyed)
    {i : Instance} (hi : r.flying.find? (·.serviceId = i.serviceId) = some i) (now : Timestamp) :
    Underway prober n start (Function.update said i.serviceId (n + 1)) (done ++ [i])
      (r.land now i (prober i.serviceId n) f).1 (r.land now i (prober i.serviceId n) f).2 := by
  have hflying := eraseP_perm hi
  have hparts : (r.flying ++ r.waiting).Perm
      (i :: ((r.landed i.serviceId).flying ++ (r.landed i.serviceId).waiting)) :=
    hflying.append_right r.waiting
  have hsaid : said i.serviceId = n := h.missing i (hparts.symm.subset (by simp))
  have hothers : ∀ j ∈ (r.landed i.serviceId).flying ++ (r.landed i.serviceId).waiting,
      j.serviceId ≠ i.serviceId := by
    have hdistinct := (h.parts.pairwise_iff Ne.symm).mpr (Watch.distinct_active hkeyed)
    have hleft := (hparts.pairwise_iff Ne.symm).mp (List.pairwise_append.mp hdistinct).2.1
    exact fun j hj => ((List.pairwise_cons.mp hleft).1 j hj).symm
  obtain ⟨s, hsummary, haccount⟩ := h.account
  constructor
  case catalog => exact (Fleet.catalog_applyOutcome f now i _).trans h.catalog
  case thresholds =>
    exact (Fleet.thresholds_perform f now (.applyOutcome i _)).trans h.thresholds
  case parts =>
    rw [List.append_assoc]
    exact (hparts.symm.append_left done).trans h.parts
  case answered =>
    intro j hj
    obtain hj | hj := List.mem_append.mp hj
    -- one that has answered is an answer ahead of the one that answers now
    · have hne : j.serviceId ≠ i.serviceId := fun heq => by
        have hdone := h.answered j hj
        rw [heq, hsaid] at hdone
        omega
      rw [Function.update_of_ne hne, h.answered j hj]
    · obtain rfl := List.mem_singleton.mp hj
      rw [Function.update_self]
  case missing =>
    intro j hj
    rw [Function.update_of_ne (hothers j hj)]
    exact h.missing j (hparts.symm.subset (List.mem_cons_of_mem i hj))
  case account =>
    refine ⟨s.book (f.applyOutcome now i (prober i.serviceId n)).1, ?_, ?_⟩
    · have hlength : r.flying.length = (r.landed i.serviceId).flying.length + 1 :=
        hflying.length_eq
      simp only [land, hsummary, hlength]
      cases (f.applyOutcome now i (prober i.serviceId n)).1 <;>
        simp [Summary.book, Summary.count, Nat.add_assoc, Nat.add_comm 1]
    · have hf : f.catalog.Keyed := h.catalog ▸ hkeyed
      rw [List.foldl_append, ← haccount, List.foldl_cons, List.foldl_nil, ← h.thresholds]
      exact Account.mk_applyOutcome hf now i (fun id => prober id n) s

theorem Underway.step (h : Underway prober n start said done r f) (hkeyed : start.catalog.Keyed)
    {now : Timestamp} {s : Step} (hstep : r.step? pool now f s = some (next, f'))
    (hquiet : s.IsQuiet prober said) :
    ∃ done', Underway prober n start (s.hear said) done' next f' := by
  cases s with
  | dispatch =>
    obtain ⟨⟨i, round⟩, hd, heq⟩ := Option.map_eq_some_iff.mp hstep
    obtain ⟨rfl, rfl⟩ := Prod.mk.inj heq
    exact ⟨done, h.dispatch hd⟩
  | answer id outcome =>
    obtain ⟨i, hfind, heq⟩ := Option.map_eq_some_iff.mp hstep
    obtain ⟨rfl, hi⟩ := find?_self hfind
    have hsaid : said i.serviceId = n :=
      h.missing i (List.mem_append_left _ (List.mem_of_find?_eq_some hi))
    have hanswer := h.answer hkeyed hi now
    rw [Step.IsQuiet, hsaid] at hquiet
    rw [← hquiet, heq] at hanswer
    rw [Step.hear, hsaid]
    exact ⟨done ++ [i], hanswer⟩
  | lose | cancel | call => exact hquiet.elim

theorem Underway.steps (h : Underway prober n start said done r f) (hkeyed : start.catalog.Keyed)
    {steps : List (Timestamp × Step)} (hsteps : steps? pool steps r f = some (next, f'))
    (hobeys : Obeys prober said steps) :
    ∃ done', Underway prober n start (heard said steps) done' next f' := by
  induction steps generalizing said done r f with
  | nil =>
    obtain ⟨rfl, rfl⟩ := Prod.mk.inj (Option.some.inj hsteps)
    exact ⟨done, h⟩
  | cons step rest ih =>
    obtain ⟨now, s⟩ := step
    obtain ⟨⟨between, fleet⟩, hstep, hrest⟩ := Option.bind_eq_some_iff.mp hsteps
    obtain ⟨hquiet, hobeys⟩ := hobeys
    obtain ⟨done', hnext⟩ := h.step hkeyed hstep hquiet
    exact ih hnext hrest hobeys

end Underway

/-- A round from its beginning to its end, with its summary. -/
def whole? (pool : Nat) (steps : List (Timestamp × Step)) (duration : Span) (f : Fleet) :
    Option (Summary × Fleet) :=
  (steps? pool steps (ofFleet f) f).bind fun (r, f) =>
    if r.isOver then some (r.summary, record duration f) else none

/-- Rounds that follow one another without anything in between, with their summaries. -/
def rounds? (pool : Nat) :
    List (List (Timestamp × Step) × Span) → Fleet → Option (List Summary × Fleet)
  | [], f => some ([], f)
  | (steps, duration) :: rest, f =>
      (whole? pool steps duration f).bind fun (s, f) =>
        (rounds? pool rest f).map fun (summaries, f) => (s :: summaries, f)

def probe (now : Timestamp) (outcome : String → Probe.Outcome) (state : Summary × Fleet)
    (i : Instance) : Summary × Fleet :=
  let (applied, f) := state.2.applyOutcome now i (outcome i.serviceId)
  (state.1.book applied, f)

/-- Probes all active instances one after the other, in the order of their ids. -/
def inTurn (now : Timestamp) (duration : Span) (outcome : String → Probe.Outcome) (f : Fleet) :
    Summary × Fleet :=
  let (s, f) := f.catalog.active.foldl (probe now outcome) ((ofFleet f).summary, f)
  (s, record duration f)

/-- Probes all active instances one after the other, and that so many times. The instances have
given some number of answers before. -/
def roundsInTurn (now : Timestamp) (duration : Span) (prober : String → Nat → Probe.Outcome) :
    Nat → Nat → Fleet → List Summary × Fleet
  | _, 0, f => ([], f)
  | n, times + 1, f =>
      let (s, f) := inTurn now duration (fun id => prober id n) f
      let (summaries, f) := roundsInTurn now duration prober (n + 1) times f
      (s :: summaries, f)

variable {prober : String → Nat → Probe.Outcome} {n : Nat} {f f' g : Fleet} {pool pool' : Nat}
  {said said' : String → Nat} {steps : List (Timestamp × Step)} {duration : Span} {s : Summary}

/-- What comes of a round is what comes of the answers in the order of its list. -/
theorem account_of_whole? (hkeyed : f.catalog.Keyed)
    (hsaid : ∀ i ∈ f.catalog.active, said i.serviceId = n) (hobeys : Obeys prober said steps)
    (h : whole? pool steps duration f = some (s, f')) :
    (⟨f'.entries, s⟩ : Account) = f.catalog.active.foldl
      (Account.take f.standings.thresholds fun id => prober id n)
      ⟨f.entries, (ofFleet f).summary⟩ ∧
    f'.catalog = f.catalog ∧ f'.standings.thresholds = f.standings.thresholds ∧
    ∀ i ∈ f.catalog.active, heard said steps i.serviceId = n + 1 := by
  obtain ⟨⟨r, last⟩, hsteps, hend⟩ := Option.bind_eq_some_iff.mp h
  obtain ⟨hover, heq⟩ := Option.ite_none_right_eq_some.mp hend
  obtain ⟨rfl, rfl⟩ := Prod.mk.inj (Option.some.inj heq)
  obtain ⟨hwaiting, hflying⟩ := isOver_iff.mp hover
  obtain ⟨done, hlast⟩ := (underway_ofFleet hsaid).steps hkeyed hsteps hobeys
  have hperm : done.Perm f.catalog.active := by
    simpa [hwaiting, hflying] using hlast.parts
  obtain ⟨s, hsummary, haccount⟩ := hlast.account
  have hsame : r.summary = s := by rw [hsummary, hflying]; rfl
  refine ⟨?_, hlast.catalog, hlast.thresholds, fun i hi =>
    hlast.answered i (hperm.symm.subset hi)⟩
  rw [hsame, ← Account.foldl_take_of_perm _ _ hperm (Watch.distinct_active hkeyed)]
  exact haccount

theorem sameStores_of_account (ht : f.standings.thresholds = g.standings.thresholds)
    {s s' : Summary} (h : (⟨f.entries, s⟩ : Account) = ⟨g.entries, s'⟩) :
    s = s' ∧ f.untimed.SameStores g.untimed := by
  obtain ⟨hentries, hsummary⟩ := Account.mk.inj h
  exact ⟨hsummary, Fleet.sameStores_untimed ht fun id => congrFun hentries id⟩

/-- Two rounds over fleets that are the same apart from the time. -/
theorem whole?_agree (hsame : f.untimed.SameStores g.untimed) (hkeyed : f.catalog.Keyed)
    (hsaid : ∀ i ∈ f.catalog.active, said i.serviceId = n)
    (hsaid' : ∀ i ∈ f.catalog.active, said' i.serviceId = n)
    {steps' : List (Timestamp × Step)} {duration' : Span} {s' : Summary} {g' : Fleet}
    (hobeys : Obeys prober said steps) (hobeys' : Obeys prober said' steps')
    (h : whole? pool steps duration f = some (s, f'))
    (h' : whole? pool' steps' duration' g = some (s', g')) :
    s = s' ∧ f'.untimed.SameStores g'.untimed := by
  have hcatalog : f.catalog = g.catalog := hsame.catalog
  have hthresholds := hsame.thresholds
  have hentries : f.entries = g.entries := funext fun id => by
    rw [Fleet.entries, ← Fleet.entry_untimed, hsame.entry, Fleet.entry_untimed, Fleet.entries]
  obtain ⟨haccount, -, ht, -⟩ := account_of_whole? hkeyed hsaid hobeys h
  rw [hcatalog] at hkeyed hsaid'
  obtain ⟨haccount', -, ht', -⟩ := account_of_whole? hkeyed hsaid' hobeys' h'
  refine sameStores_of_account (ht.trans (hthresholds.trans ht'.symm)) ?_
  rw [haccount, haccount', hcatalog, hthresholds, hentries, ofFleet, ofFleet, hcatalog]

theorem rounds?_cons {round : List (Timestamp × Step) × Span}
    {rest : List (List (Timestamp × Step) × Span)} {summaries : List Summary} {last : Fleet}
    (h : rounds? pool (round :: rest) f = some (summaries, last)) :
    ∃ s next later, whole? pool round.1 round.2 f = some (s, next) ∧
      rounds? pool rest next = some (later, last) ∧ summaries = s :: later := by
  obtain ⟨⟨s, next⟩, hround, hrest⟩ := Option.bind_eq_some_iff.mp h
  obtain ⟨⟨later, last⟩, hlater, heq⟩ := Option.map_eq_some_iff.mp hrest
  obtain ⟨rfl, rfl⟩ := Prod.mk.inj heq
  exact ⟨s, next, later, hround, hlater, rfl⟩

/-- Rounds over fleets that are the same apart from the time. -/
theorem rounds?_agree {rounds rounds' : List (List (Timestamp × Step) × Span)}
    (hlength : rounds.length = rounds'.length) (hsame : f.untimed.SameStores g.untimed)
    (hkeyed : f.catalog.Keyed) (hsaid : ∀ i ∈ f.catalog.active, said i.serviceId = n)
    (hsaid' : ∀ i ∈ f.catalog.active, said' i.serviceId = n)
    (hobeys : Obeys prober said (rounds.flatMap Prod.fst))
    (hobeys' : Obeys prober said' (rounds'.flatMap Prod.fst))
    {summaries summaries' : List Summary} {last last' : Fleet}
    (h : rounds? pool rounds f = some (summaries, last))
    (h' : rounds? pool' rounds' g = some (summaries', last')) :
    summaries = summaries' ∧ last.untimed.SameStores last'.untimed := by
  induction rounds generalizing n f g said said' rounds' summaries summaries' with
  | nil =>
    obtain rfl := List.length_eq_zero_iff.mp hlength.symm
    obtain ⟨rfl, rfl⟩ := Prod.mk.inj (Option.some.inj h)
    obtain ⟨rfl, rfl⟩ := Prod.mk.inj (Option.some.inj h')
    exact ⟨rfl, hsame⟩
  | cons round rest ih =>
    obtain ⟨round', rest', rfl⟩ := List.exists_cons_of_length_eq_add_one hlength.symm
    obtain ⟨s, next, later, hround, hlater, rfl⟩ := rounds?_cons h
    obtain ⟨s', next', later', hround', hlater', rfl⟩ := rounds?_cons h'
    rw [List.flatMap_cons, obeys_append] at hobeys hobeys'
    have hcatalog : f.catalog = g.catalog := hsame.catalog
    obtain ⟨-, hkept, -, hheard⟩ := account_of_whole? hkeyed hsaid hobeys.1 hround
    obtain ⟨-, -, -, hheard'⟩ := account_of_whole? (hcatalog ▸ hkeyed)
      (hcatalog ▸ hsaid') hobeys'.1 hround'
    obtain ⟨rfl, hnext⟩ :=
      whole?_agree hsame hkeyed hsaid hsaid' hobeys.1 hobeys'.1 hround hround'
    -- no answer touches the catalog, so the rounds that follow have the same list
    rw [← hcatalog] at hheard'
    rw [← hkept] at hkeyed hheard hheard'
    obtain ⟨rfl, hlast⟩ := ih (Nat.succ.inj hlength) hnext hkeyed hheard hheard' hobeys.2
      hobeys'.2 hlater hlater'
    exact ⟨rfl, hlast⟩

/-- The steps by which instances are probed one after the other. -/
def turns (now : Timestamp) (outcome : String → Probe.Outcome) (l : List Instance) :
    List (Timestamp × Step) :=
  l.flatMap fun i => [(now, .dispatch), (now, .answer i.serviceId (outcome i.serviceId))]

theorem steps?_turns (pool : Nat) (now : Timestamp) (outcome : String → Probe.Outcome)
    (l : List Instance) (s : Summary) (f : Fleet) :
    steps? pool (turns now outcome l) ⟨l, [], s⟩ f =
      some (⟨[], [], (l.foldl (probe now outcome) (s, f)).1⟩,
        (l.foldl (probe now outcome) (s, f)).2) := by
  induction l generalizing s f with
  | nil => rfl
  | cons i rest ih =>
    have hroom : 0 < room pool := Nat.lt_of_lt_of_le Nat.one_pos (Nat.le_max_left 1 pool)
    have hround : steps? pool [(now, .dispatch), (now, .answer i.serviceId (outcome i.serviceId))]
        ⟨i :: rest, [], s⟩ f = some (⟨rest, [], (probe now outcome (s, f) i).1⟩,
          (probe now outcome (s, f) i).2) := by
      simp [steps?, step?, dispatch?, hroom, land, landed, probe, Summary.book]
    rw [turns, List.flatMap_cons, steps?_append, hround]
    exact ih ..

theorem obeys_turns (now : Timestamp) {l : List Instance}
    (hdistinct : l.Pairwise (·.serviceId ≠ ·.serviceId))
    (hsaid : ∀ i ∈ l, said i.serviceId = n) :
    Obeys prober said (turns now (fun id => prober id n) l) := by
  induction l generalizing said with
  | nil => trivial
  | cons i rest ih =>
    obtain ⟨hi, hrest⟩ := List.pairwise_cons.mp hdistinct
    obtain ⟨hfirst, hsaid⟩ := List.forall_mem_cons.mp hsaid
    refine ⟨trivial, by simp [Step.IsQuiet, Step.hear, hfirst], ih hrest fun j hj => ?_⟩
    simpa [Step.hear, Function.update_of_ne (hi j hj).symm] using hsaid j hj

theorem whole?_turns (pool : Nat) (now : Timestamp) (duration : Span)
    (outcome : String → Probe.Outcome) (f : Fleet) :
    whole? pool (turns now outcome f.catalog.active) duration f =
      some (inTurn now duration outcome f) := by
  rw [whole?, ofFleet, steps?_turns]
  rfl

/-- Probing one after the other is one of the ways that rounds can go, whatever the pool is. -/
theorem exists_rounds?_inTurn (pool : Nat) (now : Timestamp) (duration : Span)
    (prober : String → Nat → Probe.Outcome) (times : Nat) (hkeyed : f.catalog.Keyed)
    (hsaid : ∀ i ∈ f.catalog.active, said i.serviceId = n) :
    ∃ rounds : List (List (Timestamp × Step) × Span), rounds.length = times ∧
      Obeys prober said (rounds.flatMap Prod.fst) ∧
      rounds? pool rounds f = some (roundsInTurn now duration prober n times f) := by
  induction times generalizing n f said with
  | zero => exact ⟨[], rfl, trivial, rfl⟩
  | succ times ih =>
    have hobeys : Obeys prober said (turns now (fun id => prober id n) f.catalog.active) :=
      obeys_turns now (Watch.distinct_active hkeyed) hsaid
    have hround := whole?_turns pool now duration (fun id => prober id n) f
    cases hturn : inTurn now duration (fun id => prober id n) f with
    | mk s next =>
      rw [hturn] at hround
      obtain ⟨-, hcatalog, -, hheard⟩ := account_of_whole? hkeyed hsaid hobeys hround
      obtain ⟨rounds, hlength, hlater, hrounds⟩ :=
        ih (hcatalog ▸ hkeyed) fun i hi => hheard i (hcatalog ▸ hi)
      refine ⟨(turns now (fun id => prober id n) f.catalog.active, duration) :: rounds,
        by simp [hlength], ?_, ?_⟩
      · rw [List.flatMap_cons, obeys_append]
        exact ⟨hobeys, hlater⟩
      · simp only [rounds?, roundsInTurn, hround, hturn, hrounds, Option.bind_some, Option.map_some]

/-- Rounds come to the same in any order of their answers. After every run of calls: instances are
probed in the order of their ids, and probing them one after the other, so many times, is one of the
ways that as many rounds can go, whatever the pool is. Take any rounds that follow one another
without a call in between and are not cut short, with any pool, any clock and any order of the
answers, where the answers of each instance depend on nothing but its id and how many it has given
before. Then the summaries are those of probing one after the other, and records, standings and
reports are the same too, apart from the times of the last probes. So any two such runs of equally
many rounds agree. -/
theorem rounds_agree_in_any_order (t : Thresholds) (metered : Bool)
    (calls : List (Timestamp × Fleet.Call)) (prober : String → Nat → Probe.Outcome)
    (now : Timestamp) (duration : Span) :
    let f := (Fleet.empty t metered).run calls
    let reference := fun times => roundsInTurn now duration prober 0 times f
    f.catalog.active.Pairwise (·.serviceId < ·.serviceId) ∧
    (∀ pool times, ∃ rounds : List (List (Timestamp × Step) × Span), rounds.length = times ∧
      Obeys prober (fun _ => 0) (rounds.flatMap Prod.fst) ∧
      rounds? pool rounds f = some (reference times)) ∧
    ∀ pool rounds summaries last, Obeys prober (fun _ => 0) (rounds.flatMap Prod.fst) →
      rounds? pool rounds f = some (summaries, last) →
      summaries = (reference rounds.length).1 ∧
      last.untimed.SameStores (reference rounds.length).2.untimed ∧
      ∀ pool' rounds' summaries' last', rounds.length = rounds'.length →
        Obeys prober (fun _ => 0) (rounds'.flatMap Prod.fst) →
        rounds? pool' rounds' f = some (summaries', last') →
        summaries = summaries' ∧ last.untimed.SameStores last'.untimed := by
  intro f reference
  have hkeyed : f.catalog.Keyed := Fleet.keyed_run t metered calls
  have hexists (pool times : Nat) : ∃ rounds : List (List (Timestamp × Step) × Span),
      rounds.length = times ∧ Obeys prober (fun _ => 0) (rounds.flatMap Prod.fst) ∧
      rounds? pool rounds f = some (reference times) :=
    exists_rounds?_inTurn pool now duration prober times hkeyed fun _ _ => rfl
  have hagree {pool pool' : Nat} {rounds rounds' : List (List (Timestamp × Step) × Span)}
      {summaries summaries' : List Summary} {last last' : Fleet}
      (hlength : rounds.length = rounds'.length)
      (hobeys : Obeys prober (fun _ => 0) (rounds.flatMap Prod.fst))
      (hobeys' : Obeys prober (fun _ => 0) (rounds'.flatMap Prod.fst))
      (h : rounds? pool rounds f = some (summaries, last))
      (h' : rounds? pool' rounds' f = some (summaries', last')) :
      summaries = summaries' ∧ last.untimed.SameStores last'.untimed :=
    rounds?_agree hlength ⟨rfl, rfl, rfl⟩ hkeyed (fun _ _ => rfl) (fun _ _ => rfl) hobeys hobeys'
      h h'
  refine ⟨Catalog.active_ascending hkeyed, hexists, fun pool rounds summaries last hobeys h => ?_⟩
  obtain ⟨inOrder, hlength, hobeys', h'⟩ := hexists pool rounds.length
  obtain ⟨hsummaries, hlast⟩ := hagree hlength.symm hobeys hobeys' h h'
  exact ⟨hsummaries, hlast, fun pool' rounds' summaries' last' hlength' hobeys'' h'' =>
    hagree hlength' hobeys hobeys'' h h''⟩

/-- Two rounds with room for two probes at a time, the answers coming in in reverse order. In the
second round one instance does not answer in time. -/
theorem rounds_agree_in_reverse_order :
    let orders : Registration := ⟨"i1", "orders", "10.0.0.5", 8080, .http, .empty⟩
    let calls : List (Timestamp × Fleet.Call) := [(⟨0⟩, .register orders),
      (⟨0⟩, .register { orders with serviceId := "i2" })]
    let f := (Fleet.empty ⟨1, 1⟩ false).run calls
    let prober := fun (id : String) (n : Nat) =>
      if id = "i1" ∧ n = 1 then Probe.Outcome.timedOut ⟨5⟩ else .succeeded ⟨5⟩ "HTTP 200"
    let rounds : List (List (Timestamp × Step) × Span) :=
      [([(⟨1⟩, .dispatch), (⟨1⟩, .dispatch), (⟨2⟩, .answer "i2" (.succeeded ⟨5⟩ "HTTP 200")),
        (⟨3⟩, .answer "i1" (.succeeded ⟨5⟩ "HTTP 200"))], ⟨2⟩),
      ([(⟨4⟩, .dispatch), (⟨4⟩, .dispatch), (⟨5⟩, .answer "i2" (.succeeded ⟨5⟩ "HTTP 200")),
        (⟨6⟩, .answer "i1" (.timedOut ⟨5⟩))], ⟨2⟩)]
    ∃ summaries last, Obeys prober (fun _ => 0) (rounds.flatMap Prod.fst) ∧
      rounds? 2 rounds f = some (summaries, last) ∧
      summaries = [⟨2, 2, 2, 0, 2, false⟩, ⟨2, 2, 2, 0, 1, false⟩] ∧
      last.untimed.SameStores (roundsInTurn ⟨9⟩ ⟨1⟩ prober 0 2 f).2.untimed := by
  intro orders calls f prober rounds
  have hrun : (rounds? 2 rounds f).map Prod.fst =
      some [⟨2, 2, 2, 0, 2, false⟩, ⟨2, 2, 2, 0, 1, false⟩] := by decide
  obtain ⟨⟨summaries, last⟩, hrounds, hsummaries⟩ := Option.map_eq_some_iff.mp hrun
  have hobeys : Obeys prober (fun _ => 0) (rounds.flatMap Prod.fst) :=
    ⟨trivial, trivial, rfl, rfl, trivial, trivial, rfl, rfl, trivial⟩
  obtain ⟨-, -, hagree⟩ := rounds_agree_in_any_order ⟨1, 1⟩ false calls prober ⟨9⟩ ⟨1⟩
  obtain ⟨-, hsame, -⟩ := hagree 2 rounds summaries last hobeys hrounds
  exact ⟨summaries, last, hobeys, hrounds, hsummaries, hsame⟩

end Round

end ServiceHealth
