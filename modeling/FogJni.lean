import FogJni.Runs
