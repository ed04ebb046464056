/-!
Powers with natural exponents.  Wherever a power of a natural number or of an
integer is written, it is the one that the number itself comes with.
-/

attribute [instance (20000)] instPowNat
attribute [default_instance (20000)] instPowNat
