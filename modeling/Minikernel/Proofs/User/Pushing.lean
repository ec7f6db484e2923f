import Minikernel.Proofs.User.Performance
import Minikernel.Proofs.User.Printing
import Mathlib.Data.List.Forall2

/-!
Pushing onto the stack. A push puts its bytes between the stack pointer and where it was before, in
whole words, and leaves the rest of memory alone; so pushes after each other do not meet, and what
any of them wrote is there until the stack pointer has been above it. Lengths are counted in 32
bits: a push counts right if its data, or all of memory, is short enough for that.
-/

namespace Minikernel

namespace Context

variable {context middle later : Context} {data : Bytes} {address : UInt32}
  {blocks others : List (UInt32 × Bytes)} {texts : List String}

theorem pushBytes_eq_overflow_iff :
    context.pushBytes data = .error .overflow ↔
      UInt32.size ≤ (data.length % UInt32.size + 3) / 4 * 4 := by
  unfold pushBytes
  rw [bind_eq_error_iff, blockSize_eq_overflow_iff]
  refine or_iff_left ?_
  rintro ⟨size, -, refused⟩
  dsimp only at refused
  split at refused
  · generalize context.writeBytes _ data = written at refused
    cases written <;> cases refused
  · cases refused

theorem adopt_trans (first : context.adopt middle = middle) (second : middle.adopt later = later) :
    context.adopt later = later :=
  calc context.adopt later = (context.adopt middle).adopt later := rfl
    _ = middle.adopt later := by rw [first]
    _ = later := second

theorem restoreStack_of_adopt (adopted : context.adopt later = later) :
    later.restoreStack context.stackPointer = { context with space := later.space } := by
  have space : { context.space with memory := later.space.memory } = later.space :=
    congrArg Context.space adopted
  calc later.restoreStack context.stackPointer
      = (context.adopt later).restoreStack context.stackPointer := by rw [adopted]
    _ = { context with space := { context.space with memory := later.space.memory } } := rfl
    _ = { context with space := later.space } := by rw [space]

theorem adopt_of_pushBytes (pushed : context.pushBytes data = .ok (address, later)) :
    context.adopt later = later := by
  obtain ⟨-, -, -, -, -, rfl⟩ := pushBytes_eq_ok_iff.mp pushed
  rfl

/-- Pushing has moved the stack pointer down and has changed nothing but bytes between there and
where it was, where some blocks are now. -/
structure Grown (context later : Context) (blocks : List (UInt32 × Bytes)) : Prop where
  adopted : context.adopt later = later
  lower : later.stackPointer.toNat ≤ context.stackPointer.toNat
  limited : context.space.stackLimit.toNat ≤ context.stackPointer.toNat →
    context.space.stackLimit.toNat ≤ later.stackPointer.toNat
  aligned : 4 ∣ context.stackPointer.toNat → 4 ∣ later.stackPointer.toNat
  memory : later.space.SameOutside context.space later.stackPointer.toNat
    (context.stackPointer.toNat - later.stackPointer.toNat)
  within : ∀ block ∈ blocks, later.stackPointer.toNat ≤ block.1.toNat ∧
    block.1.toNat + block.2.length ≤ context.stackPointer.toNat
  held : ∀ block ∈ blocks, later.space.memory.Holds block.1.toNat block.2

namespace Grown

theorem refl (context : Context) : context.Grown context [] where
  adopted := rfl
  lower := Nat.le_refl _
  limited := id
  aligned := id
  memory := .refl _ _ _
  within := nofun
  held := nofun

theorem trans (first : context.Grown middle blocks) (second : middle.Grown later others) :
    context.Grown later (blocks ++ others) where
  adopted := adopt_trans first.adopted second.adopted
  lower := Nat.le_trans second.lower first.lower
  limited := fun limit => by
    have between := first.limited limit
    rw [← first.memory.stackLimit] at between ⊢
    exact second.limited between
  aligned := second.aligned ∘ first.aligned
  memory := by
    have lower := second.lower
    have upper := first.lower
    exact (second.memory.widen (Nat.le_refl _) (by omega)).trans
      (first.memory.widen lower (by omega))
  within := by
    intro block member
    have lower := second.lower
    have upper := first.lower
    rcases List.mem_append.mp member with earlier | later
    · have within := first.within block earlier
      omega
    · have within := second.within block later
      omega
  held := by
    intro block member
    rcases List.mem_append.mp member with earlier | later
    · have within := first.within block earlier
      have lower := second.lower
      exact second.memory.holds (.inr (by omega)) (first.held block earlier)
    · exact second.held block later

end Grown

theorem pushBytes_grown
    (counted : context.space.size + 3 < UInt32.size ∨ data.length + 3 < UInt32.size)
    (pushed : context.pushBytes data = .ok (address, later)) :
    context.Grown later [(address, data)] ∧ later.stackPointer = address ∧
      address.toNat + (data.length + 3) / 4 * 4 = context.stackPointer.toNat := by
  obtain ⟨taken, sized, ⟨low, limit⟩, inside, rfl, rfl⟩ := pushBytes_eq_ok_iff.mp pushed
  -- In a small memory, data whose length 32 bits do not count right would end past the end.
  obtain ⟨counts, size⟩ := @blockSize_of_small data.length (by omega)
  rw [counts] at sized
  cases sized
  have place := UInt32.toNat_sub_of_le _ _ low
  have lower := UInt32.le_iff_toNat_le.mp low
  have above := UInt32.le_iff_toNat_le.mp limit
  generalize context.stackPointer - UInt32.ofNat ((data.length + 3) / 4 * 4) = top at *
  have words : top.toNat + (data.length + 3) / 4 * 4 = context.stackPointer.toNat := by omega
  have outside := AddressSpace.overlaid_sameOutside context.space top.toNat data
  refine ⟨⟨rfl, ?_, fun _ => above, fun _ => ?_, outside.mono ?_, ?_, ?_⟩, rfl, words⟩
  · show top.toNat ≤ context.stackPointer.toNat
    omega
  · show 4 ∣ top.toNat
    omega
  · show data.length ≤ context.stackPointer.toNat - top.toNat
    omega
  · intro block member
    rw [List.mem_singleton.mp member]
    exact ⟨Nat.le_refl _, show top.toNat + data.length ≤ context.stackPointer.toNat by omega⟩
  · intro block member
    rw [List.mem_singleton.mp member]
    exact Pages.holds_overlay inside

theorem pushBytes_isOk_iff (small : context.space.size + 3 < UInt32.size)
    (inside : context.stackPointer.toNat ≤ context.space.size)
    (limit : context.space.stackLimit.toNat ≤ context.stackPointer.toNat) :
    (∃ address later, context.pushBytes data = .ok (address, later)) ↔
      (data.length + 3) / 4 * 4 ≤
        context.stackPointer.toNat - context.space.stackLimit.toNat := by
  constructor
  · rintro ⟨address, later, pushed⟩
    obtain ⟨grown, top, place⟩ := pushBytes_grown (.inl small) pushed
    have above := grown.limited limit
    rw [top] at above
    omega
  · intro fits
    obtain ⟨counts, size⟩ := @blockSize_of_small data.length (by omega)
    have low : UInt32.ofNat ((data.length + 3) / 4 * 4) ≤ context.stackPointer := by
      rw [UInt32.le_iff_toNat_le]
      omega
    have place := UInt32.toNat_sub_of_le _ _ low
    refine ⟨_, _, pushBytes_eq_ok_iff.mpr ⟨_, counts, ⟨low, ?_⟩, ?_, rfl, rfl⟩⟩
    · rw [UInt32.le_iff_toNat_le]
      omega
    · omega

def block (context : Context) (data : Bytes) : List (UInt32 × Bytes) :=
  match context.pushBytes data with
  | .ok (address, _) => [(address, data)]
  | .error _ => []

def stringBlocks (context : Context) : List String → List (UInt32 × Bytes)
  | [] => []
  | text :: rest =>
      (context.pushString text).toOption.elim [] fun (address, pushed) =>
        (address, Text.Utf8.encode text ++ [0]) :: pushed.stringBlocks rest

def argumentBlocks (context : Context) (texts : List String) : List (UInt32 × Bytes) :=
  context.stringBlocks texts ++
    match context.pushStrings texts with
    | (.ok addresses, pushed) => pushed.block (addresses.flatMap Bytes.ofWord)
    | (.error _, _) => []

-- Kept closed, or the two sides would be compared by what a push does.
attribute [local irreducible] pushString in
theorem pushStrings_cons (context : Context) (text : String) (rest : List String) :
    context.pushStrings (text :: rest) =
      match context.pushString text with
      | .error cause => (.error cause, context)
      | .ok (address, pushed) =>
          ((pushed.pushStrings rest).1.map (address :: ·), (pushed.pushStrings rest).2) :=
  rfl

theorem pushStrings_grown
    (counted : context.space.size + 3 < UInt32.size ∨
      ∀ text ∈ texts, (Text.Utf8.encode text ++ [0]).length + 3 < UInt32.size) :
    context.Grown (context.pushStrings texts).2 (context.stringBlocks texts) := by
  induction texts generalizing context with
  | nil => exact .refl context
  | cons text rest ih =>
      rw [pushStrings_cons, stringBlocks]
      cases pushed : context.pushString text with
      | error cause => exact .refl context
      | ok result =>
          obtain ⟨address, middle⟩ := result
          have first := (pushBytes_grown
            (counted.imp_right fun each => each text List.mem_cons_self) pushed).1
          have others := @ih middle (counted.imp (fun small => by rwa [first.memory.size])
            fun each text member => each text (List.mem_cons_of_mem _ member))
          exact first.trans others

theorem adopt_pushStrings (context : Context) (texts : List String) :
    context.adopt (context.pushStrings texts).2 = (context.pushStrings texts).2 := by
  induction texts generalizing context with
  | nil => rfl
  | cons text rest ih =>
      rw [pushStrings_cons]
      cases pushed : context.pushString text with
      | error cause => rfl
      | ok result => exact adopt_trans (adopt_of_pushBytes pushed) (ih result.2)

theorem adopt_pushArguments (context : Context) (texts : List String) :
    context.adopt (context.pushArguments texts).2 = (context.pushArguments texts).2 := by
  have strung := adopt_pushStrings context texts
  rw [pushArguments]
  generalize context.pushStrings texts = outcome at strung
  obtain ⟨_ | addresses, middle⟩ := outcome
  · exact strung
  · dsimp only
    cases linked : middle.pushPointers addresses with
    | error cause => exact strung
    | ok result => exact adopt_trans strung (adopt_of_pushBytes linked)

theorem pushStrings_addresses {addresses : List UInt32}
    (pushed : context.pushStrings texts = (.ok addresses, later)) :
    List.Forall₂
      (fun address text => (address, Text.Utf8.encode text ++ [0]) ∈ context.stringBlocks texts)
      addresses texts := by
  induction texts generalizing context addresses with
  | nil =>
      cases pushed
      exact .nil
  | cons text rest ih =>
      rw [pushStrings_cons] at pushed
      rw [stringBlocks]
      cases first : context.pushString text with
      | error cause =>
          rw [first] at pushed
          cases (Prod.mk.inj pushed).1
      | ok result =>
          obtain ⟨address, middle⟩ := result
          rw [first] at pushed
          dsimp only at pushed
          generalize found : middle.pushStrings rest = outcome at pushed
          obtain ⟨_ | others, last⟩ := outcome
          · cases (Prod.mk.inj pushed).1
          · cases pushed
            exact .cons List.mem_cons_self
              ((ih found).imp fun _ _ member => List.mem_cons_of_mem _ member)

theorem flatMap_ofWord_length (words : List UInt32) :
    (words.flatMap Bytes.ofWord).length = words.length * 4 := by
  simp [List.length_flatMap, Bytes.ofWord_length]

theorem pushArguments_grown
    (counted : context.space.size + 3 < UInt32.size ∨ texts.length * 4 + 3 < UInt32.size ∧
      ∀ text ∈ texts, (Text.Utf8.encode text ++ [0]).length + 3 < UInt32.size) :
    context.Grown (context.pushArguments texts).2 (context.argumentBlocks texts) := by
  have strings := @pushStrings_grown context texts (counted.imp_right And.right)
  rw [pushArguments, argumentBlocks]
  generalize strung : context.pushStrings texts = outcome at strings
  obtain ⟨_ | addresses, middle⟩ := outcome
  · rw [List.append_nil]
    exact strings
  · have length := (pushStrings_addresses strung).length_eq
    have words := flatMap_ofWord_length addresses
    have size := strings.memory.size
    dsimp only
    rw [block, pushPointers]
    cases pushed : middle.pushBytes (addresses.flatMap Bytes.ofWord) with
    | error cause =>
        rw [List.append_nil]
        exact strings
    | ok result =>
        have short : middle.space.size + 3 < UInt32.size ∨
            (addresses.flatMap Bytes.ofWord).length + 3 < UInt32.size :=
          counted.imp (fun small => by rwa [size]) fun few => by omega
        exact strings.trans (pushBytes_grown short pushed).1

theorem pushArguments_blocks {pointers : UInt32}
    (made : context.pushArguments texts = (.ok pointers, later)) :
    ∃ addresses, (pointers, addresses.flatMap Bytes.ofWord) ∈ context.argumentBlocks texts ∧
      List.Forall₂ (fun address text =>
          (address, Text.Utf8.encode text ++ [0]) ∈ context.argumentBlocks texts)
        addresses texts := by
  rw [pushArguments] at made
  rw [argumentBlocks]
  generalize strung : context.pushStrings texts = outcome at made
  obtain ⟨_ | addresses, middle⟩ := outcome
  · cases (Prod.mk.inj made).1
  · have strings := pushStrings_addresses strung
    dsimp only at made ⊢
    rw [pushPointers] at made
    rw [block]
    generalize middle.pushBytes (addresses.flatMap Bytes.ofWord) = linked at made
    obtain _ | ⟨address, last⟩ := linked
    · cases (Prod.mk.inj made).1
    · cases made
      exact ⟨addresses, List.mem_append_right _ List.mem_cons_self,
        strings.imp fun _ _ member => List.mem_append_left _ member⟩

end Context

namespace Program

variable {context later : Context} {kernel : Kernel} {data : Bytes} {address : UInt32} {stop : Stop}

theorem pushString_eq (text : String) :
    pushString text = pushBytes (Text.Utf8.encode text ++ [0]) :=
  rfl

theorem perform_pushBytes_of_ok (made : context.pushBytes data = .ok (address, later)) :
    (pushBytes data).perform kernel context = (.over (.ok address), kernel, later) :=
  (perform_push_of_ok (·.pushBytes data) made).trans (by rw [Context.adopt_of_pushBytes made])

theorem perform_pushBytes_of_error (failed : context.pushBytes data = .error stop) :
    (pushBytes data).perform kernel context = (.ofOutcome (.error stop), kernel, context) :=
  perform_push_of_error (·.pushBytes data) failed

theorem perform_pushArguments (texts : List String) :
    (pushArguments texts).perform kernel context =
      (.ofOutcome (context.pushArguments texts).1, kernel, (context.pushArguments texts).2) := by
  rw [pushArguments, perform]
  dsimp only
  rw [perform, perform_ofOutcome, Context.adopt_pushArguments]

end Program

end Minikernel
