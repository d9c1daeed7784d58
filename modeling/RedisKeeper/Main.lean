import RedisKeeper.Definition.Yaml

/-
The command that prints the definitions of the Redis resources.
-/

def main : IO Unit := IO.print RedisKeeper.Definition.stream
