/-
Writers that extend one shared prefix, with their steps in any order.

A writer reads how far the prefix goes and then submits what follows, chunk by
chunk.  A transaction that starts behind the end of the prefix is refused by
the store.  So the writer that commits first is the only one that ever commits.
-/

import OxideWorkloads.Foundation.Session

namespace Foundation

variable {σ τ ε α ω : Type}

namespace Session

/-- A session on a part of a larger store. -/
def within {ρ υ : Type} (view : σ → ρ) (wrap : υ → τ) :
    Session ρ υ ε α → Session σ τ ε Unit
  | .done _ => .done ()
  | .failed error => .failed error
  | .pending => .pending
  | .ask next => .ask (fun store => (next (view store)).within view wrap)
  | .submit transaction next =>
      .submit (wrap transaction) (next.within view wrap)

/-- What a session that knows a prefix does from then on: each transaction
continues what it knows, and it returns when that is everything.  The relation
says which transaction continues a prefix of a length, after a number of
chunks, and by how many items. -/
def Follows (continues : Nat → Nat → Nat → τ → Prop) (total : Nat) :
    Nat → Nat → Session σ τ ε α → Prop
  | known, _, .done _ => known = total
  | _, _, .failed _ => True
  | _, _, .pending => True
  | known, chunks, .ask next =>
      ∀ store, Follows continues total known chunks (next store)
  | known, chunks, .submit transaction next =>
      ∃ size, continues known chunks size transaction ∧
        Follows continues total (known + size) (chunks + 1) next

theorem Follows.within {ρ υ : Type} {view : σ → ρ} {wrap : υ → τ}
    {inner : Nat → Nat → Nat → υ → Prop} {outer : Nat → Nat → Nat → τ → Prop}
    {total known chunks : Nat} {session : Session ρ υ ε α}
    (wraps : ∀ known chunks size transaction,
      inner known chunks size transaction →
        outer known chunks size (wrap transaction))
    (follows : session.Follows inner total known chunks) :
    (session.within view wrap).Follows outer total known chunks := by
  induction session generalizing known chunks with
  | done value => exact follows
  | failed error => exact trivial
  | pending => exact trivial
  | ask next ih =>
      intro store
      exact ih (view store) (follows (view store))
  | submit transaction next ih =>
      obtain ⟨size, continues, later⟩ := follows
      exact ⟨size, wraps _ _ _ _ continues, ih later⟩

theorem Follows.submits {continues : Nat → Nat → Nat → τ → Prop}
    {total known chunks : Nat} {transactions : List τ} {value : α}
    (follows : (submitAll transactions
      (.done value : Session σ τ ε α)).Follows continues total known chunks) :
    ∀ transaction ∈ transactions, ∃ known chunks size,
      continues known chunks size transaction := by
  induction transactions generalizing known chunks with
  | nil =>
      intro transaction member
      cases member
  | cons first rest ih =>
      obtain ⟨size, continues, later⟩ := follows
      intro transaction member
      rcases List.mem_cons.mp member with same | inRest
      · rw [same]
        exact ⟨_, _, _, continues⟩
      · exact ih later transaction inRest

theorem answered_within {ρ υ : Type} {view : σ → ρ} {wrap : υ → τ}
    (session : Session ρ υ ε α) (store : σ) :
    (session.within view wrap).answered store =
      (session.answered (view store)).within view wrap := by
  induction session with
  | done value => rfl
  | failed error => rfl
  | pending => rfl
  | ask next ih => exact ih (view store)
  | submit transaction next => rfl

theorem within_submitAll {ρ υ : Type} {view : σ → ρ} {wrap : υ → τ}
    (transactions : List υ) (value : α) :
    (submitAll transactions (.done value : Session ρ υ ε α)).within view wrap =
      submitAll (transactions.map wrap) (.done ()) := by
  induction transactions with
  | nil => rfl
  | cons transaction rest ih =>
      rw [submitAll, within, ih]
      rfl

end Session

/-- A store that holds a growing prefix of a sequence, and what a transaction
has to be to continue it. -/
structure PrefixStore (σ τ ε ω : Type) where
  apply : τ → σ → Except ε σ
  total : Nat
  committed : σ → Nat
  writer : τ → ω
  Standing : Shared σ τ → Prop
  Continues : ω → Nat → Nat → Nat → τ → Prop
  bounded : ∀ {shared}, Standing shared → committed shared.store ≤ total
  owned : ∀ {author known chunks size transaction},
    Continues author known chunks size transaction → writer transaction = author
  positive : ∀ {author known chunks size transaction},
    Continues author known chunks size transaction → 0 < size
  current : ∀ {shared author known chunks size transaction after},
    Standing shared → Continues author known chunks size transaction →
      known ≤ committed shared.store →
        apply transaction shared.store = .ok after →
          known = committed shared.store
  commits : ∀ {shared author size transaction after}, Standing shared →
    Continues author (committed shared.store) shared.log.length size
        transaction →
      (∀ earlier ∈ shared.log, writer earlier = author) →
        apply transaction shared.store = .ok after →
          Standing { store := after, log := shared.log ++ [transaction] } ∧
            committed after = committed shared.store + size

namespace PrefixStore

variable (held : PrefixStore σ τ ε ω)

structure Kept (shared : Shared σ τ) : Prop where
  standing : held.Standing shared
  single : ∀ first ∈ shared.log, ∀ second ∈ shared.log,
    held.writer first = held.writer second

/-- What a writer believes to be committed: not more than there is, and if it
is all of it, nobody else has committed. -/
structure Believes (shared : Shared σ τ) (writer : ω) (known chunks : Nat) :
    Prop where
  behind : known ≤ held.committed shared.store
  chunks : known = held.committed shared.store → chunks = shared.log.length
  alone : known = held.committed shared.store →
    ∀ earlier ∈ shared.log, held.writer earlier = writer

/-- What a writer has just read: all of the prefix, if it is its own. -/
structure Reads (shared : Shared σ τ) (writer : ω) (known chunks : Nat) :
    Prop extends held.Believes shared writer known chunks where
  upToDate : (∀ earlier ∈ shared.log, held.writer earlier = writer) →
    known = held.committed shared.store

/-- A session that has not read the prefix yet: it fails, or it asks until it
has. -/
def Unloaded (writer : ω) : Session σ τ ε α → Prop
  | .done _ => False
  | .failed _ => True
  | .pending => True
  | .ask next => ∀ shared, held.Kept shared →
      Unloaded writer (next shared.store) ∨
        ∃ known chunks, held.Reads shared writer known chunks ∧
          (next shared.store).Follows (held.Continues writer) held.total known
            chunks
  | .submit _ _ => False

def Running (shared : Shared σ τ) (session : Session σ τ ε α) : Prop :=
  ∃ writer, held.Unloaded writer session ∨
    ∃ known chunks, held.Believes shared writer known chunks ∧
      session.Follows (held.Continues writer) held.total known chunks

variable {held} {shared : Shared σ τ} {session next : Session σ τ ε α}
  {transaction : τ} {after : σ}

theorem Running.commit (kept : held.Kept shared)
    (running : held.Running shared (.submit transaction next))
    (applied : held.apply transaction shared.store = .ok after) :
    held.Kept { store := after, log := shared.log ++ [transaction] } ∧
      held.committed shared.store < held.committed after ∧
        held.Running { store := after, log := shared.log ++ [transaction] }
          next := by
  obtain ⟨writer, unloaded | knows⟩ := running
  · exact absurd unloaded id
  · obtain ⟨known, chunks, believes, size, continues, later⟩ := knows
    have same := held.current kept.standing continues believes.behind applied
    have count := believes.chunks same
    have alone := believes.alone same
    rw [same, count] at continues later
    have positive := held.positive continues
    obtain ⟨standing, grown⟩ :=
      held.commits kept.standing continues alone applied
    have whole : ∀ earlier ∈ shared.log ++ [transaction],
        held.writer earlier = writer := by
      intro earlier member
      rcases List.mem_append.mp member with before | new
      · exact alone earlier before
      · rw [List.mem_singleton.mp new]
        exact held.owned continues
    refine ⟨⟨standing, ?_⟩, by omega, writer, Or.inr ⟨_, _, ?_, later⟩⟩
    · intro first inFirst second inSecond
      rw [whole first inFirst, whole second inSecond]
    · constructor
      · exact Nat.le_of_eq grown.symm
      · intro _
        rw [List.length_append, List.length_singleton]
      · intro _
        exact whole

/-- One step of a session: the prefix stays or grows, and the session goes on
as one that knows what it does. -/
theorem Running.step {last : Session σ τ ε α} {later : Shared σ τ}
    (kept : held.Kept shared) (running : held.Running shared session)
    (step : Session.Step held.apply session shared last later) :
    held.Kept later ∧
      held.committed shared.store ≤ held.committed later.store ∧
        held.Running later last := by
  cases step with
  | ask answer =>
      refine ⟨kept, Nat.le_refl _, ?_⟩
      obtain ⟨writer, unloaded | knows⟩ := running
      · rcases unloaded shared kept with still | reads
        · exact ⟨writer, Or.inl still⟩
        · obtain ⟨known, chunks, read, follows⟩ := reads
          exact ⟨writer, Or.inr ⟨known, chunks, read.toBelieves, follows⟩⟩
      · obtain ⟨known, chunks, believes, follows⟩ := knows
        exact ⟨writer, Or.inr ⟨known, chunks, believes, follows shared.store⟩⟩
  | abort rest refused =>
      obtain ⟨writer, _⟩ := running
      exact ⟨kept, Nat.le_refl _, writer, Or.inl trivial⟩
  | commit rest applied =>
      obtain ⟨committed, grows, continues⟩ := running.commit kept applied
      exact ⟨committed, Nat.le_of_lt grows, continues⟩

theorem Running.other {last other : Session σ τ ε α} {later : Shared σ τ}
    (kept : held.Kept shared) (running : held.Running shared session)
    (step : Session.Step held.apply session shared last later)
    (waiting : held.Running shared other) : held.Running later other := by
  obtain ⟨writer, unloaded | knows⟩ := waiting
  · exact ⟨writer, Or.inl unloaded⟩
  · cases step with
    | ask answer => exact ⟨writer, Or.inr knows⟩
    | abort rest refused => exact ⟨writer, Or.inr knows⟩
    | commit rest applied =>
        obtain ⟨_, grows, _⟩ := running.commit kept applied
        obtain ⟨known, chunks, believes, follows⟩ := knows
        have behind := believes.behind
        refine ⟨writer, Or.inr ⟨known, chunks, ?_, follows⟩⟩
        constructor
        · exact Nat.le_trans behind (Nat.le_of_lt grows)
        · intro caughtUp
          dsimp only at caughtUp
          omega
        · intro caughtUp
          dsimp only at caughtUp
          omega

/-- Whatever the order of the steps, a prefix is committed by one writer, and
a session that returned has seen it complete. -/
theorem race_kept {starts : Session σ τ ε α → Prop} {initial : Shared σ τ}
    {sessions : List (Session σ τ ε α)}
    (begins : held.Standing initial) (empty : initial.log = [])
    (starting : ∀ session, starts session →
      ∃ writer, held.Unloaded writer session)
    (race : Race held.apply starts initial sessions shared) :
    held.Kept shared ∧ ∀ session ∈ sessions, held.Running shared session := by
  apply Race.holds _ _ _ _ race
  · refine ⟨begins, ?_⟩
    intro first member
    rw [empty] at member
    cases member
  · intro shared session _ allowed
    obtain ⟨writer, unloaded⟩ := starting session allowed
    exact ⟨writer, Or.inl unloaded⟩
  · intro session shared next later kept running step
    obtain ⟨still, _, continues⟩ := running.step kept step
    exact ⟨still, continues⟩
  · intro session shared next later other kept running step waiting
    exact running.other kept step waiting

theorem Running.done {value : α} (kept : held.Kept shared)
    (running : held.Running shared (.done value)) :
    held.committed shared.store = held.total := by
  obtain ⟨writer, unloaded | knows⟩ := running
  · exact absurd unloaded id
  · obtain ⟨known, chunks, believes, whole⟩ := knows
    have bounded := held.bounded kept.standing
    have behind := believes.behind
    have reached : known = held.total := whole
    omega

/-- A writer that finds commits of another one is refused: it changes nothing
and does not return. -/
theorem refused {author : ω} {last : Session σ τ ε α} {later : Shared σ τ}
    (kept : held.Kept shared)
    (foreign : ∃ earlier ∈ shared.log, held.writer earlier ≠ author)
    (unloaded : held.Unloaded author session)
    (walked : Session.Walk held.apply session shared last later) :
    later = shared ∧ ∀ value, last ≠ .done value := by
  have stale : ∀ known chunks, held.Believes shared author known chunks →
      known < held.committed shared.store := by
    intro known chunks believes
    obtain ⟨earlier, member, other⟩ := foreign
    by_contra reached
    apply other
    apply believes.alone _ earlier member
    have behind := believes.behind
    omega
  have place : later = shared ∧ (held.Unloaded author last ∨
      ∃ known chunks, held.Believes shared author known chunks ∧
        last.Follows (held.Continues author) held.total known chunks) := by
    induction walked with
    | start => exact ⟨rfl, Or.inl unloaded⟩
    | next walked step ih =>
        obtain ⟨same, place⟩ := ih
        rw [same] at step
        cases step with
        | ask answer =>
            refine ⟨rfl, ?_⟩
            rcases place with unread | knows
            · rcases unread shared kept with still | reads
              · exact Or.inl still
              · obtain ⟨known, chunks, read, follows⟩ := reads
                exact Or.inr ⟨known, chunks, read.toBelieves, follows⟩
            · obtain ⟨known, chunks, believes, follows⟩ := knows
              exact Or.inr ⟨known, chunks, believes, follows shared.store⟩
        | abort rest error => exact ⟨rfl, Or.inl trivial⟩
        | commit rest applied =>
            rcases place with unread | knows
            · exact absurd unread id
            · obtain ⟨known, chunks, believes, size, continues, _⟩ := knows
              have behind := stale known chunks believes
              have same := held.current kept.standing continues
                believes.behind applied
              omega
  refine ⟨place.1, ?_⟩
  intro value isDone
  rw [isDone] at place
  rcases place.2 with unread | knows
  · exact unread
  · obtain ⟨known, chunks, believes, whole⟩ := knows
    have behind := stale known chunks believes
    have bounded := held.bounded kept.standing
    have reached : known = held.total := whole
    omega

theorem answered_reads {author : ω} (kept : held.Kept shared)
    (unloaded : held.Unloaded author session) :
    held.Unloaded author (session.answered shared.store) ∨
      ∃ known chunks, held.Reads shared author known chunks ∧
        (session.answered shared.store).Follows (held.Continues author)
          held.total known chunks := by
  have follows : ∀ (later : Session σ τ ε α) known chunks,
      later.Follows (held.Continues author) held.total known chunks →
        (later.answered shared.store).Follows (held.Continues author)
          held.total known chunks := by
    intro later
    induction later with
    | done value => exact fun _ _ whole => whole
    | failed error => exact fun _ _ _ => trivial
    | pending => exact fun _ _ _ => trivial
    | ask next ih =>
        intro known chunks continues
        exact ih shared.store known chunks (continues shared.store)
    | submit transaction next => exact fun _ _ continues => continues
  induction session with
  | done value => exact Or.inl unloaded
  | failed error => exact Or.inl trivial
  | pending => exact Or.inl trivial
  | ask next ih =>
      rcases unloaded shared kept with still | reads
      · exact ih shared.store still
      · obtain ⟨known, chunks, read, continues⟩ := reads
        exact Or.inr ⟨known, chunks, read,
          follows (next shared.store) known chunks continues⟩
  | submit transaction next => exact absurd unloaded id

/-- A writer that knows the prefix and is not disturbed completes it, if the
store accepts what continues the prefix. -/
theorem finishes {author : ω} {transactions : List τ} {value : α}
    {before : Shared σ τ} (kept : held.Kept shared)
    (believes : held.Believes shared author (held.committed shared.store)
      shared.log.length)
    (follows : (Session.submitAll transactions
        (.done value : Session σ τ ε α)).Follows (held.Continues author)
      held.total (held.committed shared.store) shared.log.length)
    (succeeds : ∀ (shared : Shared σ τ) size, ∀ transaction ∈ transactions,
      held.Kept shared → held.Continues author (held.committed shared.store)
        shared.log.length size transaction →
          ∃ after, held.apply transaction shared.store = .ok after)
    (walked : Session.Walk held.apply session before
      (Session.submitAll transactions (.done value)) shared) :
    ∃ later, Session.Walk held.apply session before (.done value) later ∧
      held.Kept later ∧ held.committed later.store = held.total := by
  induction transactions generalizing shared with
  | nil =>
      refine ⟨shared, walked, kept, ?_⟩
      exact follows
  | cons transaction rest ih =>
      obtain ⟨size, continues, later⟩ := follows
      obtain ⟨after, applied⟩ := succeeds shared size transaction
        List.mem_cons_self kept continues
      have running : held.Running shared (.submit transaction
          (Session.submitAll rest (.done value : Session σ τ ε α))) :=
        ⟨author, Or.inr ⟨_, _, believes, size, continues, later⟩⟩
      obtain ⟨still, _, _⟩ := running.commit kept applied
      obtain ⟨_, grown⟩ := held.commits kept.standing continues
        (believes.alone rfl) applied
      have known : held.Believes
          { store := after, log := shared.log ++ [transaction] } author
          (held.committed after) (shared.log ++ [transaction]).length := by
        constructor
        · exact Nat.le_refl _
        · intro _
          rfl
        · intro _ earlier member
          rcases List.mem_append.mp member with old | new
          · exact believes.alone rfl earlier old
          · rw [List.mem_singleton.mp new]
            exact held.owned continues
      refine ih still known ?_ ?_
        (Session.Walk.next walked (Session.Step.commit _ applied))
      · rw [List.length_append, List.length_singleton]
        dsimp only
        rw [grown]
        exact later
      · intro shared size transaction member
        exact succeeds shared size transaction (List.mem_cons_of_mem _ member)

end PrefixStore

end Foundation
