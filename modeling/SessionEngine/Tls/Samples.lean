import SessionEngine.Text.Base64
import SessionEngine.Tls.Pem

/-! Sample keys and certificates, for trying out TLS: the authority `ca` vouches for `srv` and `cli`, `ca2`
is another authority, `self` and `rsa` vouch for themselves. The certificates of peers speak for
`localhost` and 127.0.0.1. The key of `srv` is there in several forms; the locked ones have the password
`s3cret`, and one of them is locked by a cipher that is not supported. -/

namespace SessionEngine.Tls.Samples

/-- A file with one section. -/
def file (label : String) (rows : List String) : Bytes :=
  Bytes.ofString ("\n".intercalate ([s!"-----BEGIN {label}-----"] ++ rows ++ [s!"-----END {label}-----", ""]))

/-- The files with one section each. -/
def single : List (String × Bytes) :=
  [("ca.crt", file "CERTIFICATE"
     ["MIIBTjCB9aADAgECAhRrhrJz/zT84Z1rgE7/Wj9XR62k6jAKBggqhkjOPQQDAjAU",
      "MRIwEAYDVQQDDAlzYW1wbGUgY2EwIBcNNzUwMTAxMDAwMDAwWhgPNDA5NjAxMDEw",
      "MDAwMDBaMBQxEjAQBgNVBAMMCXNhbXBsZSBjYTBZMBMGByqGSM49AgEGCCqGSM49",
      "AwEHA0IABM7MC+k9ekaDM2Z9GJwD8VdJMPspQ3MNJzW4R1I7RqdP4vzdHrUWKZTV",
      "KmwCDVI6gt7MLrG974aaFBx9+WeIdlOjIzAhMA4GA1UdDwEB/wQEAwIChDAPBgNV",
      "HRMBAf8EBTADAQH/MAoGCCqGSM49BAMCA0gAMEUCIQDzeaEuZTRgWn9N1mDBX1Zp",
      "J8G98L7yl7MIfWfKg6arHgIgeg3xlrKr/95deCe9JInwPwvGbyRRfjS3Jd0qsMnX",
      "M2E="]),
   ("ca.key", file "PRIVATE KEY"
     ["MIGHAgEAMBMGByqGSM49AgEGCCqGSM49AwEHBG0wawIBAQQgNgj9MtwMiYDwqMH0",
      "siPMXm1EvgK3fip0itAGKM/tA32hRANCAATOzAvpPXpGgzNmfRicA/FXSTD7KUNz",
      "DSc1uEdSO0anT+L83R61FimU1SpsAg1SOoLezC6xve+GmhQcfflniHZT"]),
   ("ca2.crt", file "CERTIFICATE"
     ["MIIBUTCB+KADAgECAhUA1HNeOiZeFu7gP1lxi5tdAwGcB9gwCgYIKoZIzj0EAwIw",
      "FTETMBEGA1UEAwwKc2FtcGxlIGNhMjAgFw03NTAxMDEwMDAwMDBaGA80MDk2MDEw",
      "MTAwMDAwMFowFTETMBEGA1UEAwwKc2FtcGxlIGNhMjBZMBMGByqGSM49AgEGCCqG",
      "SM49AwEHA0IABDUNGHOLh/brEZ8ld123x5cWcvwY44RGieh/Dig8wk5XfmNjEdN5",
      "aeLXwyVqPeZfmpN9GKj6GU9Jhh1qnKKyeSCjIzAhMA4GA1UdDwEB/wQEAwIChDAP",
      "BgNVHRMBAf8EBTADAQH/MAoGCCqGSM49BAMCA0gAMEUCIByocxkiZJWfS6awXcKc",
      "EqCknnuItbC/c+zf7K+ln6PSAiEArC0LTsDvZ9CRQ5nwHJHpTQc5Mkobf3RnZX1q",
      "TlEtvvM="]),
   ("ca2.key", file "PRIVATE KEY"
     ["MIGHAgEAMBMGByqGSM49AgEGCCqGSM49AwEHBG0wawIBAQQgZYsYgqRy5NlZO9GY",
      "jLZaC3wtvUYKs7wv1I2P+weijAKhRANCAAQ1DRhzi4f26xGfJXddt8eXFnL8GOOE",
      "Ronofw4oPMJOV35jYxHTeWni18Mlaj3mX5qTfRio+hlPSYYdapyisnkg"]),
   ("srv.crt", file "CERTIFICATE"
     ["MIIBSTCB8aADAgECAhROB0CFYr7bi2DOBcHez+OtFrciMDAKBggqhkjOPQQDAjAU",
      "MRIwEAYDVQQDDAlzYW1wbGUgY2EwIBcNNzUwMTAxMDAwMDAwWhgPNDA5NjAxMDEw",
      "MDAwMDBaMBUxEzARBgNVBAMMCnNhbXBsZSBzcnYwWTATBgcqhkjOPQIBBggqhkjO",
      "PQMBBwNCAAQarrA6z6d6HPMyhsFFP2q6s81E2ITO5QPu5oTaTZwnpfN3HwWowAIT",
      "tcAlbLpwD62XDsP+BeF5Ahmrsc9oFwrpox4wHDAaBgNVHREEEzARgglsb2NhbGhv",
      "c3SHBH8AAAEwCgYIKoZIzj0EAwIDRwAwRAIgVYnrm6c1wMQo45/JTPM2Z/ceWZtP",
      "Ieq9om9quAEe4xoCIFHPkaI/4lqgu46GUv7k5UCnV0W8IPKZGoZG+DHkmo+g"]),
   ("srv.key", file "PRIVATE KEY"
     ["MIGHAgEAMBMGByqGSM49AgEGCCqGSM49AwEHBG0wawIBAQQg+jK3o8i8zR18gkwW",
      "Ps+v28UxvAmslyq8Mz7hCAblp2uhRANCAAQarrA6z6d6HPMyhsFFP2q6s81E2ITO",
      "5QPu5oTaTZwnpfN3HwWowAITtcAlbLpwD62XDsP+BeF5Ahmrsc9oFwrp"]),
   ("srv_sec1.key", file "EC PRIVATE KEY"
     ["MHcCAQEEIPoyt6PIvM0dfIJMFj7Pr9vFMbwJrJcqvDM+4QgG5adroAoGCCqGSM49",
      "AwEHoUQDQgAEGq6wOs+nehzzMobBRT9qurPNRNiEzuUD7uaE2k2cJ6Xzdx8FqMAC",
      "E7XAJWy6cA+tlw7D/gXheQIZq7HPaBcK6Q=="]),
   ("srv_enc.key", file "ENCRYPTED PRIVATE KEY"
     ["MIHsMFcGCSqGSIb3DQEFDTBKMCkGCSqGSIb3DQEFDDAcBAiUJ4Sei422NAICCAAw",
      "DAYIKoZIhvcNAgkFADAdBglghkgBZQMEASoEEJS+pRLdu6gQta861IDN2J0EgZC5",
      "EXrc4l5LIomB/H8+wQSvBDm2ygwJw4bEYtmUo7VvjpLYpuzeaYpfyXJtW7eeZNp4",
      "uoZ7/Qn9jrP3CQA6sZW+7EOl4kef9PFpcu5ZYTQibb4qTQca2+Y82ws/aiK8eSKV",
      "8ZadCxb8Epb7MU2HtoCizoSNx4XDm9M6iSWLZr4uAOYvAnoZuQEKI+mRXZ6f8lk="]),
   ("srv_enc_des3.key", file "ENCRYPTED PRIVATE KEY"
     ["MIHjME4GCSqGSIb3DQEFDTBBMCkGCSqGSIb3DQEFDDAcBAjE0V8elZuwbAICCAAw",
      "DAYIKoZIhvcNAgkFADAUBggqhkiG9w0DBwQIFcHLpOdT67YEgZB4/rTCnDCrN/Wy",
      "TMrlgUeV34DSMIMRs+1XrPp8IHlgUYUwylbF6zjAfYjpIV2U+61StYUlaKe64sBg",
      "07ap+9UjbOFlAbAbzL1cKegm+xfZRrqYDCF9x7ZjSESV4hmiwNDqfa6RIBMmsugO",
      "8fFTIwgskDO11Az/F9Q2g/+pgMYdiXW/6ItAA+OXNIxaPnofkNQ="]),
   ("cli.crt", file "CERTIFICATE"
     ["MIIBSjCB8aADAgECAhRLInd31N0fxhxviE9IZB0CtNEh0zAKBggqhkjOPQQDAjAU",
      "MRIwEAYDVQQDDAlzYW1wbGUgY2EwIBcNNzUwMTAxMDAwMDAwWhgPNDA5NjAxMDEw",
      "MDAwMDBaMBUxEzARBgNVBAMMCnNhbXBsZSBjbGkwWTATBgcqhkjOPQIBBggqhkjO",
      "PQMBBwNCAATdRVkBDQl7FEAcUuL3ikXjua4dK+vgknV+w7v5/sFY2PvmeujRD3JP",
      "errG/kwS8zuMP77YDP3GKRhmgSaJLkUZox4wHDAaBgNVHREEEzARgglsb2NhbGhv",
      "c3SHBH8AAAEwCgYIKoZIzj0EAwIDSAAwRQIhAOR1BBRN/iYhbhjLnuhCWPiKvWg7",
      "4Ya/2PBBrkD+z5EPAiAHmUyN4YtY7Zc9RKBRVde+6G1HaNLH5EVLCKOcv5zPWQ=="]),
   ("cli.key", file "PRIVATE KEY"
     ["MIGHAgEAMBMGByqGSM49AgEGCCqGSM49AwEHBG0wawIBAQQg62fj3RSSm0PsP6zy",
      "nietdKeYon2sOgVMrAk2wwD/YL2hRANCAATdRVkBDQl7FEAcUuL3ikXjua4dK+vg",
      "knV+w7v5/sFY2PvmeujRD3JPerrG/kwS8zuMP77YDP3GKRhmgSaJLkUZ"]),
   ("self.crt", file "CERTIFICATE"
     ["MIIBTTCB9aADAgECAhUA7y0SfeN7lCuq0GFF5UsMYZofIjIwCgYIKoZIzj0EAwIw",
      "FjEUMBIGA1UEAwwLc2FtcGxlIHNlbGYwIBcNNzUwMTAxMDAwMDAwWhgPNDA5NjAx",
      "MDEwMDAwMDBaMBYxFDASBgNVBAMMC3NhbXBsZSBzZWxmMFkwEwYHKoZIzj0CAQYI",
      "KoZIzj0DAQcDQgAEfZzjK07BD4qwsRLBbUkkmr7zvT+Pfl1b5eHS+ZccfMW3ixWd",
      "b4wVZZQo5MKWvxq5Lix/dxLxfLYRy9QDJR12/aMeMBwwGgYDVR0RBBMwEYIJbG9j",
      "YWxob3N0hwR/AAABMAoGCCqGSM49BAMCA0cAMEQCIGxFP/hOdYsS5/D9NpSCZ8ZJ",
      "IsxT8gKO0T6dWqFYx5NDAiAlZcgdRlgRpInuPMX384CKwUeGI8Za/VBnE79E3NH0",
      "0w=="]),
   ("self.key", file "PRIVATE KEY"
     ["MIGHAgEAMBMGByqGSM49AgEGCCqGSM49AwEHBG0wawIBAQQgJG6c8ta4Xg/3JNX1",
      "/34tfgBK2qI31uCpwJFv+m+iE5WhRANCAAR9nOMrTsEPirCxEsFtSSSavvO9P49+",
      "XVvl4dL5lxx8xbeLFZ1vjBVllCjkwpa/GrkuLH93EvF8thHL1AMlHXb9"]),
   ("rsa.crt", file "CERTIFICATE"
     ["MIIC2TCCAcGgAwIBAgIVAOf2wBF3bo23zTMLVBdP1299Aha2MA0GCSqGSIb3DQEB",
      "CwUAMBUxEzARBgNVBAMMCnNhbXBsZSByc2EwIBcNNzUwMTAxMDAwMDAwWhgPNDA5",
      "NjAxMDEwMDAwMDBaMBUxEzARBgNVBAMMCnNhbXBsZSByc2EwggEiMA0GCSqGSIb3",
      "DQEBAQUAA4IBDwAwggEKAoIBAQDIE3jC1HZp69JtOuEF0N/jvJL0aqfyvicp3R1k",
      "BBnHi6ypr69dl/L0BDpchEMkVEbiGJGgxjF4voexPgk11naR/LrtvYe5B8oGycUC",
      "MCVTGqd5uGPq5W4li86KYl4o6BOpyAmZkSFpoMjAe8LhIyaDIrWNs0+Pz+iiO1tz",
      "4ZNV8TqJq3psrFFu9jz7BsaKSBVLYSTH8z/IkwUHLUaqapdv3houbLH75gklpDvP",
      "4JlKo4BnDe0hCAJsTo1sFfORvmirmqSIJbc0n6qcGSOQt1E3DOAQp1XALWB2l+ed",
      "KLZ4s7bbTj4jx0cZN0OG/k17fL/vrzD2WslBCNPZr4Y5dtXBAgMBAAGjHjAcMBoG",
      "A1UdEQQTMBGCCWxvY2FsaG9zdIcEfwAAATANBgkqhkiG9w0BAQsFAAOCAQEAEnMe",
      "m+ENsZLOGyzBpziI3qky9Q6lrg5UE5ZlLccn/Ph01mZtmTrDiSS58hJzCxp81/C6",
      "PVeFQude5Ot+FXlCOvpIkz7njml+SiTy5WvqyrgiWsX0csAL1bHijGDOnEJP+asr",
      "MKjMJAxzpd/U3C1pabV2A38lMzYXf17MOSvi0HsLYFeW0Q80rvG347YY1oo3kBP5",
      "Ti6T6HjlpsdfebgFtt91QOXbGUjEinQp3DstceWbHJw86Dtue9VjdNiIHxqsXN3D",
      "fOs7f5FCxs1Z1qwBPdps7n8CkkR8mMjQ9LBnhuZ+K+YrfOx45Hkli6Llzg9dlLec",
      "Z1DPi2HLKpH+SyVztA=="]),
   ("rsa.key", file "PRIVATE KEY"
     ["MIIEvAIBADANBgkqhkiG9w0BAQEFAASCBKYwggSiAgEAAoIBAQDIE3jC1HZp69Jt",
      "OuEF0N/jvJL0aqfyvicp3R1kBBnHi6ypr69dl/L0BDpchEMkVEbiGJGgxjF4voex",
      "Pgk11naR/LrtvYe5B8oGycUCMCVTGqd5uGPq5W4li86KYl4o6BOpyAmZkSFpoMjA",
      "e8LhIyaDIrWNs0+Pz+iiO1tz4ZNV8TqJq3psrFFu9jz7BsaKSBVLYSTH8z/IkwUH",
      "LUaqapdv3houbLH75gklpDvP4JlKo4BnDe0hCAJsTo1sFfORvmirmqSIJbc0n6qc",
      "GSOQt1E3DOAQp1XALWB2l+edKLZ4s7bbTj4jx0cZN0OG/k17fL/vrzD2WslBCNPZ",
      "r4Y5dtXBAgMBAAECgf8+Ky6++13AE/LS1hTNxdWL4jCXmfyNxOBOddKIHW4VPyVr",
      "pJeNMYXgpN+tl7t1MmrEHnZBytPcfPeU733VKMq3GhzLerUNnYn9Cf0ZbPRsGkAn",
      "5k/F0XykVgjbny068MILY4j4GsyTEc7PYKVxZ4a0ALkBStJSEXxrzJ3iKBmr/jg5",
      "BG/N6V/GQfnav3iUoPqgOylcXlVCIvmqTr1vaHEWVGEvnu4qv2YcajBc1Ym23dJq",
      "NhNNqompKnk9F/ihzXA5WSCN5SnEHfmVMFhK4pZJ+cvdZKtji9ixr31SFecNLRa8",
      "BNxBkydrnpTM66sGuxb1tXOhTaO29xE44cDNpwECgYEA7ABJD+W99EK8RodGnaZy",
      "1V5UmAstudgKVmQeTQXkS4FrmLUXeEwgCYsKOlLQJkuRUGqKPqdZQjchYdKqZImO",
      "RWm5t9MeUV2W9ih2MPBHdrldqSpsW32pcdq85AkTovGUMqiIO6+yKYviCmJa2Nag",
      "c24EaH9XhUjwApG+9l6TXsECgYEA2QfXq4QM0Ltdgz2TxETQFGoVu1t5a/yZbfRd",
      "K9mm7Nu5D7rNYjHw7k7rTnyjWXJUZX0v41PyJBO8QCvVlnOrwzqFIYS739CZzjVC",
      "VP5VMBGSLU4csj/PQXV8Y/RjNGAZrzpr/w3CosWgcatlWsR2jSmp3HGQ57BbFy1z",
      "1ZuINwECgYEAleZ8gc+AfxSgd//Wl64wxFwdSVHYYnHZ5xPCt1OltVvoFt/3n15i",
      "/wzEm1UchyZ6j2SMmM09AbT4zCS+PAuvRWGpKBy95hqXF5WNtPn5umx1FE0w9E/1",
      "/65bSlCFm3rskdzAY4DunjsOgWAFqjNxSMA5ppIz6iHw6QDgFabu3kECgYEAySsO",
      "yum0o0n5LOxH6rZKFZIboLXyf5j9csD+F+ZAZu5nxF/HfkyCYbJ/RBodo4xpFEWM",
      "vO+T08MDTIwVB8ciH+0/d8k8CAKofk45tOSme87dqubrjIG/D5LiARiHWAX36MeD",
      "UUAk+JGs3ZAce5z9sm07CJ2vzkJWvM4hv47SHQECgYBaEXY3Yt2dsxAByjGwxWGE",
      "Fs2TZrCBK7wIPzdtTlKGx1V16mmJb9E2KIRbu6xPiBqJEjKv75Af4fJl4GEkmU4i",
      "axjfPgGYE+up8YPxnQM14S6MknXbA5Onnkq/xp108N7JLNIdCkazRbCIc7VfN+Fb",
      "CA88kGZmOQFnDPJSc7EumA=="]),
   ("rsa_pkcs1.key", file "RSA PRIVATE KEY"
     ["MIIEogIBAAKCAQEAyBN4wtR2aevSbTrhBdDf47yS9Gqn8r4nKd0dZAQZx4usqa+v",
      "XZfy9AQ6XIRDJFRG4hiRoMYxeL6HsT4JNdZ2kfy67b2HuQfKBsnFAjAlUxqnebhj",
      "6uVuJYvOimJeKOgTqcgJmZEhaaDIwHvC4SMmgyK1jbNPj8/oojtbc+GTVfE6iat6",
      "bKxRbvY8+wbGikgVS2Ekx/M/yJMFBy1GqmqXb94aLmyx++YJJaQ7z+CZSqOAZw3t",
      "IQgCbE6NbBXzkb5oq5qkiCW3NJ+qnBkjkLdRNwzgEKdVwC1gdpfnnSi2eLO2204+",
      "I8dHGTdDhv5Ne3y/768w9lrJQQjT2a+GOXbVwQIDAQABAoH/PisuvvtdwBPy0tYU",
      "zcXVi+Iwl5n8jcTgTnXSiB1uFT8la6SXjTGF4KTfrZe7dTJqxB52QcrT3Hz3lO99",
      "1SjKtxocy3q1DZ2J/Qn9GWz0bBpAJ+ZPxdF8pFYI258tOvDCC2OI+BrMkxHOz2Cl",
      "cWeGtAC5AUrSUhF8a8yd4igZq/44OQRvzelfxkH52r94lKD6oDspXF5VQiL5qk69",
      "b2hxFlRhL57uKr9mHGowXNWJtt3SajYTTaqJqSp5PRf4oc1wOVkgjeUpxB35lTBY",
      "SuKWSfnL3WSrY4vYsa99UhXnDS0WvATcQZMna56UzOurBrsW9bVzoU2jtvcROOHA",
      "zacBAoGBAOwASQ/lvfRCvEaHRp2mctVeVJgLLbnYClZkHk0F5EuBa5i1F3hMIAmL",
      "CjpS0CZLkVBqij6nWUI3IWHSqmSJjkVpubfTHlFdlvYodjDwR3a5XakqbFt9qXHa",
      "vOQJE6LxlDKoiDuvsimL4gpiWtjWoHNuBGh/V4VI8AKRvvZek17BAoGBANkH16uE",
      "DNC7XYM9k8RE0BRqFbtbeWv8mW30XSvZpuzbuQ+6zWIx8O5O6058o1lyVGV9L+NT",
      "8iQTvEAr1ZZzq8M6hSGEu9/Qmc41QlT+VTARki1OHLI/z0F1fGP0YzRgGa86a/8N",
      "wqLFoHGrZVrEdo0pqdxxkOewWxctc9WbiDcBAoGBAJXmfIHPgH8UoHf/1peuMMRc",
      "HUlR2GJx2ecTwrdTpbVb6Bbf959eYv8MxJtVHIcmeo9kjJjNPQG0+MwkvjwLr0Vh",
      "qSgcveYalxeVjbT5+bpsdRRNMPRP9f+uW0pQhZt67JHcwGOA7p47DoFgBaozcUjA",
      "OaaSM+oh8OkA4BWm7t5BAoGBAMkrDsrptKNJ+SzsR+q2ShWSG6C18n+Y/XLA/hfm",
      "QGbuZ8Rfx35MgmGyf0QaHaOMaRRFjLzvk9PDA0yMFQfHIh/tP3fJPAgCqH5OObTk",
      "pnvO3arm64yBvw+S4gEYh1gF9+jHg1FAJPiRrN2QHHuc/bJtOwidr85CVrzOIb+O",
      "0h0BAoGAWhF2N2LdnbMQAcoxsMVhhBbNk2awgSu8CD83bU5ShsdVdeppiW/RNiiE",
      "W7usT4gaiRIyr++QH+HyZeBhJJlOImsY3z4BmBPrqfGD8Z0DNeEujJJ12wOTp55K",
      "v8addPDeySzSHQpGs0WwiHO1XzfhWwgPPJBmZjkBZwzyUnOxLpg="])]

/-- The file with a name. -/
def named? (name : String) : Option Bytes :=
  if name = "srv_chain.crt" then return (← single.lookup "srv.crt") ++ (← single.lookup "ca.crt")
  else single.lookup name

/-- The names of all files. -/
def names : List String := "srv_chain.crt" :: single.map (·.1)

end SessionEngine.Tls.Samples
