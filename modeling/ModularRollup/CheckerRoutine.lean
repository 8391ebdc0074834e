import ModularRollup.SignatureChecker

/-! The signature checker's request loop, `checker_routine` of `start_sign_checker`. It takes
the requests off its channel in the order they were sent and spawns a task for each; a task
runs `VerifiedTx::verify` on its request and sends the result on the request's own `oneshot`
channel, ignoring the error of a send whose receiver was dropped. A `verify` that panics (an
`expect` on an answer of the L1 node or the database) unwinds its task before the send: the
`oneshot` sender is dropped unsent and the caller's receiver gets `Canceled`. The tasks share no
mutable state, so a task is one step here, taken whenever the scheduler runs it to its end; the
L1 node and the database may answer differently from task to task, so that step carries the
answers its task got. The loop ends with the request stream: a run that sends no more
requests. -/
namespace ModularRollup.CheckerRoutine
open Primitives TxCommon Transactions SignatureChecker

/-- The loop, its tasks and their callers. A request's `oneshot` channel is named by the
request's place in `requests`; the requests from `received` on are still in the `mpsc` channel;
`tasks` holds the channels of the spawned tasks that have not finished; `cancelled` those whose
task panicked, so that the sender was dropped unsent. -/
structure Checker where
  requests : List RequestData
  received : ℕ
  tasks : List ℕ
  dropped : List ℕ
  responses : List (ℕ × Run TxAddError VerifiedTx)
  cancelled : List ℕ

/-- The moves of the callers, of the loop and of the scheduler. -/
inductive Event
  /-- A caller sends a `VerifySignatureRequest` with a new `oneshot` channel. -/
  | request (data : RequestData)
  /-- A caller drops the receiver of its channel. -/
  | dropReceiver (channel : ℕ)
  /-- `input.next()` yields the oldest request, and its task is spawned. -/
  | receive
  /-- The task of `channel` runs to its end, with these answers of the L1 node and the
  database. -/
  | finish (channel : ℕ) (eth : EthereumChecker) (storage : Storage)

variable (crypto : Crypto) (config : ServerConfig) (checks : OtherChecks)
  (orderCorrect : Order → Bool)

/-- `response.send(resp).unwrap_or_default()`, a no-op once the receiver is gone. -/
def send (s : Checker) (channel : ℕ) (resp : Run TxAddError VerifiedTx) :
    List (ℕ × Run TxAddError VerifiedTx) :=
  if channel ∈ s.dropped then s.responses else s.responses ++ [(channel, resp)]

/-- The end of the task of `channel`, whose `verify` gave `resp`: it sends `resp`, unless
`verify` panicked, which unwinds the task before the send and cancels the channel. -/
def finishTask (s : Checker) (channel : ℕ) (resp : Run TxAddError VerifiedTx) : Checker :=
  if resp.isPanic then
    { s with tasks := s.tasks.erase channel, cancelled := s.cancelled ++ [channel] }
  else { s with tasks := s.tasks.erase channel, responses := send s channel resp }

/-! A finished task, whether it sent or panicked, leaves the requests, the loop and the dropped
receivers as they were, and removes itself from the running tasks. -/

def step (s : Checker) : Event → Checker
  | .request data => { s with requests := s.requests ++ [data] }
  | .dropReceiver channel => { s with dropped := channel :: s.dropped }
  | .receive =>
    if s.received < s.requests.length then
      { s with received := s.received + 1, tasks := s.tasks ++ [s.received] }
    else s
  | .finish channel eth storage =>
    match s.tasks.contains channel, s.requests[channel]? with
    | true, some data =>
      finishTask s channel (verify crypto config checks orderCorrect storage eth data)
    | _, _ => s

def run (s : Checker) (events : List Event) : Checker :=
  events.foldl (step crypto config checks orderCorrect) s

@[simp] lemma run_nil (s : Checker) : run crypto config checks orderCorrect s [] = s := rfl

lemma run_append (s : Checker) (es es' : List Event) :
    run crypto config checks orderCorrect s (es ++ es') =
      run crypto config checks orderCorrect (run crypto config checks orderCorrect s es) es' :=
  List.foldl_append _ _ _ _

/-- `resp` is what `verify` returns for the request of `channel` under some answers of the L1
node and the database. -/
def Answers (s : Checker) (channel : ℕ) (resp : Run TxAddError VerifiedTx) : Prop :=
  ∃ data eth storage, s.requests[channel]? = some data ∧
    resp = verify crypto config checks orderCorrect storage eth data

/-- `verify` panics on the request of `channel` under some answers of the L1 node and the
database. -/
def Panicked (s : Checker) (channel : ℕ) : Prop :=
  ∃ m, Answers crypto config checks orderCorrect s channel (.panic m)

/-- What holds of every state the loop reaches: a channel is queued, running or finished; a
finished one was answered once with a verdict `verify` returned on its own request, unless its
receiver was gone, or it was cancelled because `verify` panicked on that request. -/
structure Inv (s : Checker) : Prop where
  received_le : s.received ≤ s.requests.length
  tasks_nodup : s.tasks.Nodup
  tasks_lt : ∀ c ∈ s.tasks, c < s.received
  responses_nodup : (s.responses.map Prod.fst).Nodup
  responses_finished : ∀ p ∈ s.responses, p.1 < s.received ∧ p.1 ∉ s.tasks
  responses_answer : ∀ p ∈ s.responses, Answers crypto config checks orderCorrect s p.1 p.2
  responses_returned : ∀ p ∈ s.responses, p.2.isPanic = false
  cancelled_finished : ∀ c ∈ s.cancelled, c < s.received ∧ c ∉ s.tasks
  cancelled_panicked : ∀ c ∈ s.cancelled, Panicked crypto config checks orderCorrect s c
  answered : ∀ c < s.received, c ∉ s.tasks → c ∉ s.dropped →
    (∃ r, (c, r) ∈ s.responses) ∨ c ∈ s.cancelled

variable {crypto config checks orderCorrect} {s : Checker}

/-- A verdict on a channel below the requests' length stays one when requests are added. -/
lemma Answers.append {c : ℕ} {resp : Run TxAddError VerifiedTx}
    (h : Answers crypto config checks orderCorrect s c resp) (hc : c < s.requests.length)
    (data : RequestData) :
    Answers crypto config checks orderCorrect { s with requests := s.requests ++ [data] } c resp :=
  let ⟨d, eth, storage, hd, hr⟩ := h
  ⟨d, eth, storage, (List.getElem?_append_left hc).trans hd, hr⟩

lemma Inv.request (h : Inv crypto config checks orderCorrect s) (data : RequestData) :
    Inv crypto config checks orderCorrect (step crypto config checks orderCorrect s (.request data)) := by
  have hlt : ∀ c < s.received, c < s.requests.length := fun c hc => hc.trans_le h.received_le
  refine ⟨?_, h.tasks_nodup, h.tasks_lt, h.responses_nodup, h.responses_finished,
    fun p hp => (h.responses_answer p hp).append (hlt _ (h.responses_finished p hp).1) data,
    h.responses_returned, h.cancelled_finished, fun c hc => ?_, h.answered⟩
  · simp only [step, List.length_append]
    exact h.received_le.trans (Nat.le_add_right _ _)
  · obtain ⟨m, hm⟩ := h.cancelled_panicked c hc
    exact ⟨m, hm.append (hlt c (h.cancelled_finished c hc).1) data⟩

lemma Inv.dropReceiver (h : Inv crypto config checks orderCorrect s) (c : ℕ) :
    Inv crypto config checks orderCorrect (step crypto config checks orderCorrect s (.dropReceiver c)) :=
  ⟨h.received_le, h.tasks_nodup, h.tasks_lt, h.responses_nodup, h.responses_finished,
    h.responses_answer, h.responses_returned, h.cancelled_finished, h.cancelled_panicked,
    fun c' hc ht hd => h.answered c' hc ht (fun h' => hd (.tail _ h'))⟩

lemma Inv.receive (h : Inv crypto config checks orderCorrect s) :
    Inv crypto config checks orderCorrect (step crypto config checks orderCorrect s .receive) := by
  unfold step
  split_ifs with hlt
  swap
  · exact h
  have hnew : s.received ∉ s.tasks := fun hm => (h.tasks_lt _ hm).false
  have hnot : ∀ c < s.received, c ∉ s.tasks → c ∉ s.tasks ++ [s.received] := fun c hc ht => by
    simpa [ht] using hc.ne
  refine ⟨hlt, h.tasks_nodup.append (List.nodup_singleton _) (by simpa using hnew), ?_,
    h.responses_nodup, fun p hp => ?_, h.responses_answer, h.responses_returned, fun c hc => ?_,
    h.cancelled_panicked, ?_⟩
  · simp only [List.mem_append, List.mem_singleton]
    rintro c (hc | rfl)
    · exact (h.tasks_lt c hc).trans (Nat.lt_succ_self _)
    · exact Nat.lt_succ_self _
  · obtain ⟨hlt', hnt⟩ := h.responses_finished p hp
    exact ⟨hlt'.trans (Nat.lt_succ_self _), hnot _ hlt' hnt⟩
  · obtain ⟨hlt', hnt⟩ := h.cancelled_finished c hc
    exact ⟨hlt'.trans (Nat.lt_succ_self _), hnot _ hlt' hnt⟩
  · intro c hc ht hd
    simp only [List.mem_append, List.mem_singleton, not_or] at ht
    exact h.answered c (Nat.lt_of_le_of_ne (Nat.lt_succ_iff.mp hc) ht.2) ht.1 hd

/-- A send adds its response unless the receiver is gone. -/
lemma mem_send {c : ℕ} {resp : Run TxAddError VerifiedTx} {p : ℕ × Run TxAddError VerifiedTx} :
    p ∈ send s c resp ↔ p ∈ s.responses ∨ (c ∉ s.dropped ∧ p = (c, resp)) := by
  unfold send
  split_ifs with hd <;> simp [hd]

lemma nodup_send {c : ℕ} {resp : Run TxAddError VerifiedTx} (h : (s.responses.map Prod.fst).Nodup)
    (hc : c ∉ s.responses.map Prod.fst) : ((send s c resp).map Prod.fst).Nodup := by
  unfold send
  split_ifs
  · exact h
  · simpa using h.append (List.nodup_singleton c) (by simpa using hc)

lemma Inv.finish (h : Inv crypto config checks orderCorrect s) {c : ℕ} {data : RequestData}
    (hc : c ∈ s.tasks) (hd : s.requests[c]? = some data) (eth : EthereumChecker)
    (storage : Storage) :
    Inv crypto config checks orderCorrect (step crypto config checks orderCorrect s (.finish c eth storage)) := by
  have hmem : ∀ {a}, a ∈ s.tasks.erase c ↔ a ≠ c ∧ a ∈ s.tasks := h.tasks_nodup.mem_erase_iff
  have hout : ∀ {a}, a ∉ s.tasks → a ∉ s.tasks.erase c := fun ha he => ha (hmem.mp he).2
  have hc' : c ∉ s.tasks.erase c := fun he => (hmem.mp he).1 rfl
  have hclt := h.tasks_lt c hc
  have hwait : ∀ a < s.received, a ∉ s.tasks.erase c → a ≠ c → a ∉ s.tasks :=
    fun a _ hat hac hm => hat (hmem.mpr ⟨hac, hm⟩)
  simp only [step, List.elem_eq_mem, decide_eq_true hc, hd, finishTask]
  split_ifs with hpanic
  · -- `verify` panicked: the channel is cancelled, nothing is sent
    obtain ⟨m, hm⟩ : ∃ m, verify crypto config checks orderCorrect storage eth data = .panic m := by
      revert hpanic
      cases verify crypto config checks orderCorrect storage eth data <;> simp [Run.isPanic]
    refine ⟨h.received_le, h.tasks_nodup.erase c, fun a ha => h.tasks_lt a (hmem.mp ha).2,
      h.responses_nodup, fun p hp => ⟨(h.responses_finished p hp).1,
        hout (h.responses_finished p hp).2⟩, h.responses_answer, h.responses_returned,
      fun a ha => ?_, fun a ha => ?_, fun a ha hat had => ?_⟩
    · rcases List.mem_append.mp ha with ha | ha
      · exact ⟨(h.cancelled_finished a ha).1, hout (h.cancelled_finished a ha).2⟩
      · obtain rfl := List.mem_singleton.mp ha
        exact ⟨hclt, hc'⟩
    · rcases List.mem_append.mp ha with ha | ha
      · exact h.cancelled_panicked a ha
      · obtain rfl := List.mem_singleton.mp ha
        exact ⟨m, data, eth, storage, hd, hm.symm⟩
    · by_cases hac : a = c
      · exact .inr (List.mem_append_right _ (List.mem_singleton.mpr hac))
      · exact (h.answered a ha (hwait a ha hat hac) had).imp id (List.mem_append_left _)
  · -- `verify` returned: its verdict is sent unless the receiver is gone
    have hfresh : c ∉ s.responses.map Prod.fst := fun hm => by
      obtain ⟨p, hp, rfl⟩ := List.mem_map.mp hm
      exact (h.responses_finished p hp).2 hc
    refine ⟨h.received_le, h.tasks_nodup.erase c, fun a ha => h.tasks_lt a (hmem.mp ha).2,
      nodup_send h.responses_nodup hfresh, fun p hp => ?_, fun p hp => ?_, fun p hp => ?_,
      fun a ha => ⟨(h.cancelled_finished a ha).1, hout (h.cancelled_finished a ha).2⟩,
      h.cancelled_panicked, fun a ha hat had => ?_⟩
    · rcases mem_send.mp hp with hp | ⟨-, rfl⟩
      · exact ⟨(h.responses_finished p hp).1, hout (h.responses_finished p hp).2⟩
      · exact ⟨hclt, hc'⟩
    · rcases mem_send.mp hp with hp | ⟨-, rfl⟩
      · exact h.responses_answer p hp
      · exact ⟨data, eth, storage, hd, rfl⟩
    · rcases mem_send.mp hp with hp | ⟨-, rfl⟩
      · exact h.responses_returned p hp
      · simpa using hpanic
    · by_cases hac : a = c
      · exact .inl ⟨_, mem_send.mpr (.inr ⟨hac ▸ had, by rw [hac]⟩)⟩
      · exact (h.answered a ha (hwait a ha hat hac) had).imp
          (fun ⟨r, hr⟩ => ⟨r, mem_send.mpr (.inl hr)⟩) id

/-- A `finish` of a task that is not running changes nothing. -/
lemma step_finish_of_not_mem {c : ℕ} (hc : c ∉ s.tasks) (eth : EthereumChecker)
    (storage : Storage) : step crypto config checks orderCorrect s (.finish c eth storage) = s := by
  simp [step, hc]

lemma Inv.requests_of_mem (h : Inv crypto config checks orderCorrect s) {c : ℕ}
    (hc : c ∈ s.tasks) : ∃ data, s.requests[c]? = some data :=
  ⟨_, List.getElem?_eq_getElem ((h.tasks_lt c hc).trans_le h.received_le)⟩

lemma Inv.step (h : Inv crypto config checks orderCorrect s) (e : Event) :
    Inv crypto config checks orderCorrect (step crypto config checks orderCorrect s e) := by
  cases e with
  | request data => exact h.request data
  | dropReceiver c => exact h.dropReceiver c
  | receive => exact h.receive
  | finish c eth storage =>
    by_cases hc : c ∈ s.tasks
    · obtain ⟨data, hd⟩ := h.requests_of_mem hc
      exact h.finish hc hd eth storage
    · rwa [step_finish_of_not_mem hc]

lemma Inv.run (h : Inv crypto config checks orderCorrect s) (events : List Event) :
    Inv crypto config checks orderCorrect (run crypto config checks orderCorrect s events) := by
  induction events generalizing s with
  | nil => exact h
  | cons e es ih => exact ih (h.step e)

variable (crypto config checks orderCorrect)

variable {crypto config checks orderCorrect}

variable (crypto config checks orderCorrect)

end ModularRollup.CheckerRoutine
