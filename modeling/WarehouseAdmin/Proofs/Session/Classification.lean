import WarehouseAdmin.Session.Classification
import WarehouseAdmin.Proofs.Text.Search

/-!
# What a message is taken for

A message is taken for what its phrases say, up to simple case folding, and for nothing else: not
for where they stand, nor for what stands around them. The phrase of a hidden object goes first.
`Tells` says with what phrases a message tells what, and `classify_exact` that the kind of an error
follows from this alone; the error keeps what the driver said.
-/

set_option autoImplicit false

namespace WarehouseAdmin

variable {fold : Char → Char}

/-- What a message tells about an object, where `fold` is how the letters of phrases are compared. -/
def Ambiguity.Tells (fold : Char → Char) (message : String) : Ambiguity → Prop
  | .notAuthorized => Text.HoldsFolded fold message "does not exist or not authorized"
  | .notPossible =>
    Text.HoldsFolded fold message "does not exist or operation cannot be performed" ∨
      Text.HoldsFolded fold message "does not exist, or operation cannot be performed"

theorem Ambiguity.isSmall_of_mem_phrases (a : Ambiguity) :
    ∀ phrase ∈ a.phrases, Text.isSmall phrase = true := by
  cases a <;> decide

/-- The phrases of the table are those that tell. -/
theorem Ambiguity.occursIn_iff (hfold : Text.IsSimpleFold fold) (a : Ambiguity) (message : String) :
    a.occursIn message = true ↔ a.Tells fold message := by
  have hphrases : a.occursIn message = true ↔ ∃ p ∈ a.phrases, Text.HoldsFolded fold message p := by
    rw [occursIn, List.any_eq_true]
    constructor
    · rintro ⟨p, hp, h⟩
      exact ⟨p, hp, (Text.containsFolded_iff hfold (a.isSmall_of_mem_phrases p hp)).mp h⟩
    · rintro ⟨p, hp, h⟩
      exact ⟨p, hp, (Text.containsFolded_iff hfold (a.isSmall_of_mem_phrases p hp)).mpr h⟩
  rw [hphrases]
  cases a <;> simp [phrases, Tells]

theorem Ambiguity.occursIn_append {a : Ambiguity} {message : String}
    (h : a.occursIn message = true) (before after : String) :
    a.occursIn (before ++ message ++ after) = true := by
  rw [occursIn, List.any_eq_true] at h ⊢
  obtain ⟨p, hp, hfound⟩ := h
  exact ⟨p, hp, Text.containsFolded_append hfound before after⟩

theorem Ambiguity.occursIn_congr (a : Ambiguity) {message message' : String}
    (h : Text.sameLetters message message' = true) : a.occursIn message = a.occursIn message' := by
  rw [occursIn, occursIn, funext (Text.containsFolded_congr h)]

/-! ## The kind of a message -/

namespace DriverError

/-- The phrase of a hidden object goes first, wherever it stands. -/
theorem classify_eq (e : DriverError) :
    e.classify =
      if Ambiguity.notAuthorized.occursIn e.text then .notExistOrNotAuthorized e
      else if Ambiguity.notPossible.occursIn e.text then .notExistOrNotPossible e
      else .driver e := by
  rw [classify, ambiguityOf]
  cases hhidden : Ambiguity.notAuthorized.occursIn e.text with
  | true => simp [hhidden]
  | false =>
    cases hunfit : Ambiguity.notPossible.occursIn e.text with
    | true => simp [hhidden, hunfit]
    | false => simp [hhidden, hunfit]

end DriverError

theorem classifyMessage_eq (message : String) :
    classifyMessage message =
      if Ambiguity.notAuthorized.occursIn message then .notExistOrNotAuthorized
      else if Ambiguity.notPossible.occursIn message then .notExistOrNotPossible
      else .driver := by
  rw [classifyMessage, DriverError.classify_eq]
  split
  · rfl
  · split <;> rfl

theorem classifyMessage_notExistOrNotAuthorized_iff {message : String} :
    classifyMessage message = .notExistOrNotAuthorized ↔
      Ambiguity.notAuthorized.occursIn message = true := by
  rw [classifyMessage_eq]
  split
  case isTrue h => simp [h]
  case isFalse h => split <;> simp [h]

theorem classifyMessage_notExistOrNotPossible_iff {message : String} :
    classifyMessage message = .notExistOrNotPossible ↔
      ¬ Ambiguity.notAuthorized.occursIn message = true ∧
        Ambiguity.notPossible.occursIn message = true := by
  rw [classifyMessage_eq]
  split
  case isTrue h => simp [h]
  case isFalse h => split <;> simp_all

theorem classifyMessage_driver_iff {message : String} :
    classifyMessage message = .driver ↔ ∀ a : Ambiguity, ¬ a.occursIn message = true := by
  have hall : (∀ a : Ambiguity, ¬ a.occursIn message = true) ↔
      ¬ Ambiguity.notAuthorized.occursIn message = true ∧
        ¬ Ambiguity.notPossible.occursIn message = true := by
    constructor
    · intro h
      exact ⟨h .notAuthorized, h .notPossible⟩
    · rintro ⟨hhidden, hunfit⟩ a
      cases a with
      | notAuthorized => exact hhidden
      | notPossible => exact hunfit
  rw [hall, classifyMessage_eq]
  split
  case isTrue h => simp [h]
  case isFalse h => split <;> simp_all

/-- A message that tells something still tells something inside of a longer one. -/
theorem classifyMessage_append_ne_driver {message : String}
    (h : classifyMessage message ≠ .driver) (before after : String) :
    classifyMessage (before ++ message ++ after) ≠ .driver := by
  rw [Ne, classifyMessage_driver_iff] at h ⊢
  intro hnone
  apply h
  intro a ha
  exact hnone a (Ambiguity.occursIn_append ha before after)

theorem classifyMessage_congr {message message' : String}
    (h : Text.sameLetters message message' = true) :
    classifyMessage message' = classifyMessage message := by
  rw [classifyMessage_eq, classifyMessage_eq, Ambiguity.occursIn_congr .notAuthorized h,
    Ambiguity.occursIn_congr .notPossible h]

/-! ## The error of a message -/

/-- The driver error that an error hands on. -/
def Error.driverError? : Error → Option DriverError
  | .notExistOrNotAuthorized e => some e
  | .notExistOrNotPossible e => some e
  | .driver e => some e
  | _ => none

namespace DriverError

theorem driverError?_classify (e : DriverError) : e.classify.driverError? = some e := by
  rw [classify]
  split <;> rfl

theorem kind_classify (e : DriverError) : e.classify.kind = classifyMessage e.text := by
  rw [classify_eq, classifyMessage_eq]
  split
  · rfl
  · split <;> rfl

end DriverError

/-- **A message is taken for what it tells**, and nothing else about it counts. With the phrase of a
hidden object in it, it is of that kind; without, it is of the other kind with one of the two other
phrases; without these, it is an error of the driver. So more text before or behind a message does
not make it an error of the driver, nor does the phrase of the one kind there hide that of the other;
and the case of ASCII letters makes no difference. The error of a driver error is of the kind of its
message, and hands on the driver error as it is. -/
theorem classify_exact (hfold : Text.IsSimpleFold fold) (message : String) :
    (classifyMessage message = .notExistOrNotAuthorized ↔
      Ambiguity.notAuthorized.Tells fold message) ∧
    (classifyMessage message = .notExistOrNotPossible ↔
      ¬ Ambiguity.notAuthorized.Tells fold message ∧ Ambiguity.notPossible.Tells fold message) ∧
    (classifyMessage message = .driver ↔ ∀ a : Ambiguity, ¬ a.Tells fold message) ∧
    (∀ before after : String,
      (classifyMessage message ≠ .driver →
        classifyMessage (before ++ message ++ after) ≠ .driver) ∧
      (classifyMessage message = .notExistOrNotAuthorized →
        classifyMessage (before ++ message ++ after) = .notExistOrNotAuthorized)) ∧
    (∀ message' : String, Text.sameLetters message message' = true →
      classifyMessage message' = classifyMessage message) ∧
    ∀ e : DriverError, e.text = message →
      e.classify.kind = classifyMessage message ∧ e.classify.driverError? = some e := by
  simp only [← Ambiguity.occursIn_iff hfold]
  refine ⟨classifyMessage_notExistOrNotAuthorized_iff, classifyMessage_notExistOrNotPossible_iff,
    classifyMessage_driver_iff, fun before after => ⟨fun h => ?_, fun h => ?_⟩,
    fun message' h => classifyMessage_congr h, ?_⟩
  · exact classifyMessage_append_ne_driver h before after
  · rw [classifyMessage_notExistOrNotAuthorized_iff] at h ⊢
    exact Ambiguity.occursIn_append h before after
  · rintro e rfl
    exact ⟨e.kind_classify, e.driverError?_classify⟩

/-- A message that begins its phrase twice, and spells it with a long s. -/
def repeatedMessage : String :=
  "Object does not exist doe\u017f not exist, OR operation cannot be performed"

/-- It tells that the operation does not suit the object, until the phrase of a hidden object stands
behind it. -/
theorem classify_exact_repeatedMessage :
    Text.IsSimpleFold Text.foldCase ∧
    classifyMessage repeatedMessage = .notExistOrNotPossible ∧
    Ambiguity.notPossible.Tells Text.foldCase repeatedMessage ∧
    ¬ Ambiguity.notAuthorized.Tells Text.foldCase repeatedMessage ∧
    classifyMessage ("1: " ++ repeatedMessage ++ "; 2: Does not exist or not authorized.") =
      .notExistOrNotAuthorized := by
  obtain ⟨-, hunfit, -⟩ :=
    classify_exact Text.isSimpleFold_foldCase repeatedMessage
  obtain ⟨hhidden, -⟩ := classify_exact Text.isSimpleFold_foldCase
    ("1: " ++ repeatedMessage ++ "; 2: Does not exist or not authorized.")
  have hkind : classifyMessage repeatedMessage = .notExistOrNotPossible := by
    decide +kernel
  obtain ⟨hnot, htells⟩ := hunfit.mp hkind
  refine ⟨Text.isSimpleFold_foldCase, hkind, htells, hnot, hhidden.mpr ?_⟩
  exact ⟨"1: " ++ repeatedMessage ++ "; 2: ", "Does not exist or not authorized", ".",
    by decide +kernel, by decide +kernel⟩

end WarehouseAdmin
