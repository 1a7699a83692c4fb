/-!
Powers. Wherever the library writes a power with a natural exponent, it means the one that repeats
the multiplication of the base's own type, also in a module that knows of monoids.
-/

set_option autoImplicit false

attribute [instance (20000)] instPowNat
attribute [default_instance 20000] instPowNat
