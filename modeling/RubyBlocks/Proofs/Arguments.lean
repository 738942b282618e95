import Mathlib.Data.Nat.Digits.Defs
import RubyBlocks.Command.Arguments

/-!
# Which arguments are accepted

The arguments are read one by one, and a reading keeps three things of those behind it:
the positional ones, the destination and whether there was force. `foldlM_next` says what
these are after any number of arguments without going through them again, and everything
else is read off that. Flags and positional arguments do not meet in it, so it does not
matter where among the others a flag stands.

Only the number of the line needs an argument of its own. Digits are read from the left,
and reading stops as soon as they make too large a number, long before it is known whether
the rest are digits at all. Nothing is lost by that: more digits only make the number
larger, and whichever way a number is refused, it is refused.
-/

namespace RubyBlocks

namespace Arguments

/-! ## Numbers -/

/-- The number that decimal digits stand for. -/
def numeral (digits : Text) : Nat :=
  Nat.ofDigits 10 (digits.reverse.map fun c => c.toNat - '0'.toNat)

/-- The text is a decimal number, with a plus sign in front or without. -/
def Denotes (text : Text) (n : Nat) : Prop :=
  ∃ sign digits, text = sign ++ digits ∧ (sign = [] ∨ sign = ['+']) ∧ digits ≠ [] ∧
    (∀ c ∈ digits, c.isDigit = true) ∧ numeral digits = n

theorem numeral_cons (c : Char) (digits : Text) :
    numeral (c :: digits) =
      (c.toNat - '0'.toNat) * 10 ^ digits.length + numeral digits := by
  rw [numeral, List.reverse_cons, List.map_append, Nat.ofDigits_append, List.length_map,
    List.length_reverse, List.map_singleton, Nat.ofDigits_singleton, ← numeral,
    Nat.mul_comm, Nat.add_comm]

/-- Reading digits behind others that make `value`. -/
theorem readDigits_eq_ok_iff {digits : Text} {n : Nat} :
    ∀ {value : Nat}, value ≤ largestNumber →
      (readDigits value digits = .ok n ↔ (∀ c ∈ digits, c.isDigit = true) ∧
        value * 10 ^ digits.length + numeral digits = n ∧ n ≤ largestNumber) := by
  induction digits with
  | nil =>
      intro value hvalue
      have hnil : value * 10 ^ ([] : Text).length + numeral [] = value := by
        simp [numeral]
      rw [readDigits, hnil, Except.ok.injEq]
      constructor
      · rintro rfl
        exact ⟨fun c hc => absurd hc List.not_mem_nil, rfl, hvalue⟩
      · rintro ⟨-, heq, -⟩
        exact heq
  | cons c rest ih =>
      intro value hvalue
      have hnumeral : value * 10 ^ (c :: rest).length + numeral (c :: rest) =
          (value * 10 + (c.toNat - 48)) * 10 ^ rest.length + numeral rest := by
        rw [numeral_cons, List.length_cons, Nat.pow_succ', Nat.add_mul, Nat.mul_assoc,
          Nat.add_assoc]
        rfl
      rw [hnumeral, List.forall_mem_cons, and_assoc]
      simp only [readDigits]
      split <;> rename_i hc
      · split <;> rename_i hlarge
        · -- The digits so far are a lower bound of the whole number.
          constructor
          · intro h
            cases h
          · rintro ⟨-, -, rfl, hn⟩
            have hpos : 0 < 10 ^ rest.length := Nat.pow_pos (by decide)
            have hle := Nat.le_mul_of_pos_right (value * 10 + (c.toNat - 48)) hpos
            omega
        · rw [ih (Nat.le_of_not_lt hlarge)]
          exact (and_iff_right hc).symm
      · constructor
        · intro h
          cases h
        · rintro ⟨hdigit, -⟩
          exact absurd hdigit hc

theorem readDigits_zero_eq_ok_iff {digits : Text} {n : Nat} :
    readDigits 0 digits = .ok n ↔
      (∀ c ∈ digits, c.isDigit = true) ∧ numeral digits = n ∧ n ≤ largestNumber := by
  rw [readDigits_eq_ok_iff (Nat.zero_le _), Nat.zero_mul, Nat.zero_add]

/-- The numbers that are read are those that are not too large. -/
theorem readNumber_eq_ok_iff {text : Text} {n : Nat} :
    readNumber text = .ok n ↔ Denotes text n ∧ n ≤ largestNumber := by
  have hdigit : ∀ {digits : Text}, (∀ c ∈ digits, c.isDigit = true) →
      ∀ rest, digits ≠ '+' :: rest := by
    rintro digits hdigits rest rfl
    exact absurd (hdigits '+' List.mem_cons_self) (by decide)
  constructor
  · intro h
    rw [readNumber.eq_def] at h
    split at h
    · cases h
    · cases h
    · rename_i digits hne
      obtain ⟨hdigits, hn, hle⟩ := readDigits_zero_eq_ok_iff.1 h
      refine ⟨⟨['+'], digits, rfl, Or.inr rfl, ?_, hdigits, hn⟩, hle⟩
      rintro rfl
      exact hne rfl
    · rename_i hne _ _
      obtain ⟨hdigits, hn, hle⟩ := readDigits_zero_eq_ok_iff.1 h
      exact ⟨⟨[], text, rfl, Or.inl rfl, hne, hdigits, hn⟩, hle⟩
  · rintro ⟨⟨sign, digits, rfl, hsign, hne, hdigits, hn⟩, hle⟩
    have hread := readDigits_zero_eq_ok_iff.2 ⟨hdigits, hn, hle⟩
    obtain ⟨first, rest, rfl⟩ := List.exists_cons_of_ne_nil hne
    rcases hsign with rfl | rfl
    · rw [List.nil_append, readNumber, hread]
      · exact hne
      · exact hdigit hdigits []
      · exact fun rest => hdigit hdigits rest
    · rw [List.singleton_append, readNumber, hread]
      simp

/-! ## Flags -/

/-- The flags for a destination, with what they ask for. -/
def outputFlags : List (Text × Destination) :=
  [("--in-place".toList, .file), ("-i".toList, .file), ("--stdout".toList, .standardOutput)]

/-- The flags for force. -/
def forceFlags : List Text := ["--force".toList, "-f".toList]

/-- All flags that the command knows. -/
def flags : List Text := outputFlags.map Prod.fst ++ forceFlags

/-- The argument looks like a flag and is none. -/
def IsUnknown (argument : Text) : Prop :=
  argument.head? = some '-' ∧ 1 < Text.byteLength argument ∧ argument ∉ flags

instance (argument : Text) : Decidable (IsUnknown argument) :=
  inferInstanceAs (Decidable (_ ∧ _))

theorem destinationFlag?_eq_some_iff {argument : Text} {destination : Destination} :
    destinationFlag? argument = some destination ↔
      (argument, destination) ∈ outputFlags := by
  constructor
  · intro h
    rw [destinationFlag?] at h
    split at h <;> rename_i hfile
    · cases h
      rw [Bool.or_eq_true, decide_eq_true_eq, decide_eq_true_eq] at hfile
      rcases hfile with rfl | rfl
      · exact List.mem_cons_self
      · exact List.mem_cons_of_mem _ List.mem_cons_self
    · split at h <;> rename_i houtput
      · cases h
        rw [houtput]
        exact List.mem_cons_of_mem _ (List.mem_cons_of_mem _ List.mem_cons_self)
      · cases h
  · have hall : ∀ flag ∈ outputFlags, destinationFlag? flag.1 = some flag.2 := by decide
    intro h
    exact hall _ h

theorem destinationFlag?_eq_none_iff {argument : Text} :
    destinationFlag? argument = none ↔ argument ∉ outputFlags.map Prod.fst := by
  rw [Option.eq_none_iff_forall_ne_some, List.mem_map, not_exists]
  constructor
  · rintro h ⟨flag, destination⟩ ⟨hmem, rfl⟩
    exact h destination (destinationFlag?_eq_some_iff.2 hmem)
  · intro h destination hflag
    exact h (argument, destination) ⟨destinationFlag?_eq_some_iff.1 hflag, rfl⟩

theorem isForceFlag_iff {argument : Text} :
    isForceFlag argument = true ↔ argument ∈ forceFlags := by
  rw [isForceFlag, forceFlags, Bool.or_eq_true, decide_eq_true_eq, decide_eq_true_eq,
    List.mem_cons, List.mem_singleton]

theorem isDashed_iff {argument : Text} :
    isDashed argument = true ↔
      argument.head? = some '-' ∧ 1 < Text.byteLength argument := by
  rw [isDashed, Bool.and_eq_true, beq_iff_eq, decide_eq_true_eq]
  refine and_congr_right fun hhead => ?_
  obtain ⟨rest, rfl⟩ := List.head?_eq_some_iff.1 hhead
  have hdash : ('-').utf8Size = 1 := rfl
  cases rest with
  | nil => simp [Text.byteLength, hdash]
  | cons c rest =>
      have hpos := c.utf8Size_pos
      rw [List.length_cons, List.length_cons, Text.byteLength, Text.byteLength, hdash]
      omega

/-! ## The reading -/

/-- The destination that the last flag for one asks for. -/
def lastAsked? (arguments : List Text) : Option Destination :=
  arguments.reverse.findSome? destinationFlag?

/-- What one more argument does. -/
theorem next_eq (reading : Reading) (argument : Text) :
    reading.next argument =
      if IsUnknown argument then .error (.unknownOption argument)
      else .ok ⟨reading.positional ++ [argument].filter (· ∉ flags),
        (destinationFlag? argument).getD reading.destination,
        reading.force || isForceFlag argument⟩ := by
  have hunknown : argument ∈ flags → ¬ IsUnknown argument := fun hflag h => h.2.2 hflag
  rw [Reading.next]
  cases houtput : destinationFlag? argument with
  | some destination =>
      have hmem := destinationFlag?_eq_some_iff.1 houtput
      have hflag : argument ∈ flags :=
        List.mem_append_left _ (List.mem_map_of_mem hmem)
      have hforce : isForceFlag argument = false := by
        have hall : ∀ flag ∈ outputFlags, isForceFlag flag.1 = false := by decide
        exact hall _ hmem
      simp [hunknown hflag, hflag, hforce]
  | none =>
      have hnot := destinationFlag?_eq_none_iff.1 houtput
      by_cases hforce : isForceFlag argument = true
      · have hflag : argument ∈ flags :=
          List.mem_append_right _ (isForceFlag_iff.1 hforce)
        simp [hunknown hflag, hflag, hforce]
      · have hflag : argument ∉ flags := by
          rw [flags, List.mem_append, not_or]
          exact ⟨hnot, mt isForceFlag_iff.2 hforce⟩
        by_cases hdashed : isDashed argument = true
        · have h : IsUnknown argument :=
            ⟨(isDashed_iff.1 hdashed).1, (isDashed_iff.1 hdashed).2, hflag⟩
          simp [h, hforce, hdashed]
        · have h : ¬ IsUnknown argument := fun h => hdashed (isDashed_iff.2 ⟨h.1, h.2.1⟩)
          simp [h, hforce, hdashed, hflag]

/-- What is known behind any number of arguments. -/
theorem foldlM_next (arguments : List Text) :
    ∀ reading : Reading, arguments.foldlM Reading.next reading =
      match arguments.find? (IsUnknown ·) with
      | some argument => .error (.unknownOption argument)
      | none => .ok ⟨reading.positional ++ arguments.filter (· ∉ flags),
          (lastAsked? arguments).getD reading.destination,
          reading.force || arguments.any isForceFlag⟩ := by
  induction arguments with
  | nil =>
      intro reading
      simp [lastAsked?, pure, Except.pure]
  | cons argument rest ih =>
      intro reading
      rw [List.foldlM_cons, next_eq]
      by_cases h : IsUnknown argument
      · simp [h, bind, Except.bind]
      · rw [if_neg h]
        show rest.foldlM Reading.next _ = _
        rw [ih, List.find?_cons_of_neg (by simpa using h)]
        cases rest.find? (IsUnknown ·) with
        | some unknown => rfl
        | none =>
            have hlast : (lastAsked? (argument :: rest)).getD reading.destination =
                (lastAsked? rest).getD
                  ((destinationFlag? argument).getD reading.destination) := by
              rw [lastAsked?, List.reverse_cons, List.findSome?_append, Option.getD_or,
                List.findSome?_singleton, lastAsked?]
            have hpositional : (argument :: rest).filter (· ∉ flags) =
                [argument].filter (· ∉ flags) ++ rest.filter (· ∉ flags) :=
              List.filter_append [argument] rest
            rw [hlast, hpositional, List.any_cons]
            simp only [List.append_assoc, Bool.or_assoc]

/-! ## What is accepted -/

/-- The first argument that looks like a flag and is none. -/
def FirstUnknown (arguments : List Text) (option : Text) : Prop :=
  ∃ front back, arguments = front ++ option :: back ∧ IsUnknown option ∧
    ∀ argument ∈ front, ¬ IsUnknown argument

/-- The last flag for a destination decides about it, and without any it is left to the
settings. -/
inductive AskedFor (arguments : List Text) : Destination → Prop where
  | last {front back : List Text} {flag : Text} {destination : Destination}
      (eq : arguments = front ++ flag :: back) (mem : (flag, destination) ∈ outputFlags)
      (others : ∀ argument ∈ back, argument ∉ outputFlags.map Prod.fst) :
      AskedFor arguments destination
  | none (others : ∀ argument ∈ arguments, argument ∉ outputFlags.map Prod.fst) :
      AskedFor arguments .settings

/-- What the arguments ask for, when they are a file, the number of a line and flags. -/
structure AsksFor (arguments : List Text) (result : Arguments) : Prop where
  positional : ∃ line n, arguments.filter (· ∉ flags) = [result.file, line] ∧
    Denotes line n ∧ 1 ≤ n ∧ n ≤ 2 ^ 64 - 1 ∧ result.cursorLine = n - 1
  destination : AskedFor arguments result.destination
  force_iff : result.force = true ↔ ∃ flag ∈ forceFlags, flag ∈ arguments

theorem find?_eq_some_iff {arguments : List Text} {option : Text} :
    arguments.find? (IsUnknown ·) = some option ↔ FirstUnknown arguments option := by
  rw [List.find?_eq_some_iff_append, decide_eq_true_eq, FirstUnknown]
  constructor
  · rintro ⟨hoption, front, back, rfl, hfront⟩
    exact ⟨front, back, rfl, hoption, fun argument hmem => by simpa using hfront argument hmem⟩
  · rintro ⟨front, back, rfl, hoption, hfront⟩
    exact ⟨hoption, front, back, rfl, fun argument hmem => by simpa using hfront argument hmem⟩

theorem lastAsked?_eq_some_iff {arguments : List Text} {destination : Destination} :
    lastAsked? arguments = some destination ↔
      ∃ front flag back, arguments = front ++ flag :: back ∧
        (flag, destination) ∈ outputFlags ∧
        ∀ argument ∈ back, argument ∉ outputFlags.map Prod.fst := by
  rw [lastAsked?, List.findSome?_eq_some_iff]
  constructor
  · rintro ⟨back, flag, front, heq, hflag, hback⟩
    refine ⟨front.reverse, flag, back.reverse, ?_, destinationFlag?_eq_some_iff.1 hflag, ?_⟩
    · rw [← List.reverse_reverse arguments, heq]
      simp
    · intro argument hmem
      exact destinationFlag?_eq_none_iff.1 (hback argument (List.mem_reverse.1 hmem))
  · rintro ⟨front, flag, back, rfl, hflag, hback⟩
    refine ⟨back.reverse, flag, front.reverse, by simp,
      destinationFlag?_eq_some_iff.2 hflag, ?_⟩
    intro argument hmem
    exact destinationFlag?_eq_none_iff.2 (hback argument (List.mem_reverse.1 hmem))

theorem lastAsked?_eq_none_iff {arguments : List Text} :
    lastAsked? arguments = none ↔
      ∀ argument ∈ arguments, argument ∉ outputFlags.map Prod.fst := by
  rw [lastAsked?, List.findSome?_eq_none_iff]
  simp only [List.mem_reverse, destinationFlag?_eq_none_iff]

theorem getD_lastAsked?_eq_iff {arguments : List Text} {destination : Destination} :
    (lastAsked? arguments).getD .settings = destination ↔
      AskedFor arguments destination := by
  constructor
  · rintro rfl
    cases h : lastAsked? arguments with
    | none => exact .none (lastAsked?_eq_none_iff.1 h)
    | some destination =>
        obtain ⟨front, flag, back, heq, hmem, hback⟩ := lastAsked?_eq_some_iff.1 h
        exact .last heq hmem hback
  · rintro (⟨heq, hmem, hback⟩ | hnone)
    · rw [lastAsked?_eq_some_iff.2 ⟨_, _, _, heq, hmem, hback⟩, Option.getD_some]
    · rw [lastAsked?_eq_none_iff.2 hnone, Option.getD_none]

theorem any_isForceFlag_iff {arguments : List Text} :
    arguments.any isForceFlag = true ↔ ∃ flag ∈ forceFlags, flag ∈ arguments := by
  rw [List.any_eq_true]
  constructor
  · rintro ⟨flag, hmem, hflag⟩
    exact ⟨flag, isForceFlag_iff.1 hflag, hmem⟩
  · rintro ⟨flag, hflag, hmem⟩
    exact ⟨flag, hmem, isForceFlag_iff.2 hflag⟩

/-- Everything that is looked at, in the arguments as a whole. -/
theorem parse_eq (arguments : List Text) :
    parse arguments =
      match arguments.find? (IsUnknown ·) with
      | some argument => .error (.unknownOption argument)
      | none => Reading.finish ⟨arguments.filter (· ∉ flags),
          (lastAsked? arguments).getD .settings, arguments.any isForceFlag⟩ := by
  rw [parse, foldlM_next]
  cases arguments.find? (IsUnknown ·) with
  | some argument => rfl
  | none => simp only [Reading.start, List.nil_append, Bool.false_or]; rfl

theorem finish_eq_ok_iff {reading : Reading} {result : Arguments} :
    reading.finish = .ok result ↔ (∃ line n, reading.positional = [result.file, line] ∧
      Denotes line n ∧ 1 ≤ n ∧ n ≤ 2 ^ 64 - 1 ∧ result.cursorLine = n - 1) ∧
      reading.destination = result.destination ∧ reading.force = result.force := by
  constructor
  · intro h
    rw [Reading.finish] at h
    split at h
    · rename_i file line heq
      split at h
      · cases h
      · cases h
      · rename_i n hread
        cases h
        obtain ⟨hdenotes, hle⟩ := readNumber_eq_ok_iff.1 hread
        exact ⟨⟨line, n + 1, heq, hdenotes, Nat.succ_pos n, hle, rfl⟩, rfl, rfl⟩
    · cases h
  · rintro ⟨⟨line, n, heq, hdenotes, hpos, hle, hcursor⟩, hdestination, hforce⟩
    obtain ⟨n, rfl⟩ := Nat.exists_eq_add_one.2 hpos
    have hread := readNumber_eq_ok_iff.2 ⟨hdenotes, hle⟩
    obtain ⟨positional, destination, force⟩ := reading
    simp only at heq hdestination hforce
    subst heq hdestination hforce
    simp only [Reading.finish, hread]
    rw [Nat.add_sub_cancel] at hcursor
    rw [← hcursor]

theorem finish_ne_unknownOption (reading : Reading) (option : Text) :
    reading.finish ≠ .error (.unknownOption option) := by
  intro h
  rw [Reading.finish] at h
  split at h
  · split at h <;> cases h
  · cases h

/-! What is looked at in the arguments is either in the positional ones, in the flags for a
destination or in how often an argument occurs. -/

theorem find?_filter_flags (arguments : List Text) :
    (arguments.filter (· ∉ flags)).find? (IsUnknown ·) = arguments.find? (IsUnknown ·) := by
  rw [List.find?_filter]
  congr 1
  funext argument
  rw [decide_eq_decide, decide_eq_true_eq, decide_eq_true_eq]
  exact and_iff_right_of_imp fun h => h.2.2

theorem lastAsked?_filter (arguments : List Text) :
    lastAsked? (arguments.filter (· ∈ outputFlags.map Prod.fst)) = lastAsked? arguments := by
  rw [lastAsked?, lastAsked?, ← List.filter_reverse, ← List.head?_filterMap,
    ← List.head?_filterMap, List.filterMap_filter]
  congr 2
  funext argument
  by_cases h : argument ∈ outputFlags.map Prod.fst
  · rw [if_pos (decide_eq_true h)]
  · rw [if_neg (by simpa using h), destinationFlag?_eq_none_iff.2 h]

theorem parse_moved {arguments moved : List Text} (hperm : arguments.Perm moved)
    (hpositional : arguments.filter (· ∉ flags) = moved.filter (· ∉ flags))
    (houtput : arguments.filter (· ∈ outputFlags.map Prod.fst) =
      moved.filter (· ∈ outputFlags.map Prod.fst)) :
    parse moved = parse arguments := by
  rw [parse_eq, parse_eq, ← find?_filter_flags arguments, ← find?_filter_flags moved,
    ← lastAsked?_filter arguments, ← lastAsked?_filter moved, hpositional, houtput,
    hperm.any_eq]

/-- The first argument that looks like a flag and is none is refused. If there is no such
argument, what is asked for is decided by the positional arguments in their order, by the
last flag for a destination and by whether there is a flag for force. So flags may move. -/
theorem parse_outcome (arguments : List Text) :
    (∀ option, parse arguments = .error (.unknownOption option) ↔
      FirstUnknown arguments option) ∧
    (∀ option, (ArgumentError.unknownOption option).message =
      "Unknown option: " ++ option.asString) ∧
    (∀ result, parse arguments = .ok result ↔
      (∀ argument ∈ arguments, ¬ IsUnknown argument) ∧ AsksFor arguments result) ∧
    ∀ moved : List Text, arguments.Perm moved →
      arguments.filter (· ∉ flags) = moved.filter (· ∉ flags) →
      arguments.filter (· ∈ outputFlags.map Prod.fst) =
        moved.filter (· ∈ outputFlags.map Prod.fst) →
      parse moved = parse arguments := by
  refine ⟨fun option => ?_, fun option => rfl, fun result => ?_,
    fun moved hperm hpositional houtput => parse_moved hperm hpositional houtput⟩
  · rw [← find?_eq_some_iff, parse_eq]
    cases arguments.find? (IsUnknown ·) with
    | some argument => simp
    | none => simp [finish_ne_unknownOption]
  · rw [parse_eq]
    cases h : arguments.find? (IsUnknown ·) with
    | some argument =>
        obtain ⟨front, back, rfl, hunknown, -⟩ := find?_eq_some_iff.1 h
        constructor
        · intro h
          cases h
        · rintro ⟨hknown, -⟩
          exact absurd hunknown (hknown argument (by simp))
    | none =>
        have hknown : ∀ argument ∈ arguments, ¬ IsUnknown argument := by
          simpa using h
        simp only [finish_eq_ok_iff, getD_lastAsked?_eq_iff]
        constructor
        · rintro ⟨hpositional, hdestination, hforce⟩
          refine ⟨hknown, hpositional, hdestination, ?_⟩
          rw [← hforce, any_isForceFlag_iff]
        · rintro ⟨-, hpositional, hdestination, hforce⟩
          refine ⟨hpositional, hdestination, ?_⟩
          rw [Bool.eq_iff_iff, any_isForceFlag_iff, hforce]

/-- The flags go to the front, and the largest line is still on line 18446744073709551614,
counted from zero. -/
theorem parse_outcome_largest :
    let arguments := ["a", "--stdout", "+018446744073709551615", "-f", "-i"].map String.toList
    let moved := ["-f", "--stdout", "-i", "a", "+018446744073709551615"].map String.toList
    let result : Arguments := ⟨['a'], 18446744073709551614, .file, true⟩
    arguments.Perm moved ∧
      arguments.filter (· ∉ flags) = moved.filter (· ∉ flags) ∧
      arguments.filter (· ∈ outputFlags.map Prod.fst) =
        moved.filter (· ∈ outputFlags.map Prod.fst) ∧
      AsksFor arguments result ∧ parse moved = .ok result := by
  intro arguments moved result
  have hperm : arguments.Perm moved := by decide
  have hpositional : arguments.filter (· ∉ flags) = moved.filter (· ∉ flags) := by decide
  have houtput : arguments.filter (· ∈ outputFlags.map Prod.fst) =
      moved.filter (· ∈ outputFlags.map Prod.fst) := by decide
  obtain ⟨-, -, hok, hmoved⟩ := parse_outcome arguments
  have hparse : parse arguments = .ok result := rfl
  exact ⟨hperm, hpositional, houtput, ((hok result).1 hparse).2,
    (hmoved moved hperm hpositional houtput).trans hparse⟩

end Arguments

end RubyBlocks
